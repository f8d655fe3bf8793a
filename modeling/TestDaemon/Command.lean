import TestDaemon.Error
import TestDaemon.Request

/-! # Commands

The commands that a line of text can give. An undeploy takes the rest of its line, trimmed; a test
takes three words and ignores further ones.
-/

namespace TestDaemon

inductive Command where
  | stop
  | undeploy (id : String)
  | test (id className method : String)
  deriving DecidableEq, Repr

namespace Error

def unsupportedCommand (line : String) : Error :=
  ⟨.command, "This server does not support command: " ++ line⟩

def incompleteTest (missing line : String) : Error :=
  ⟨.command, "missing " ++ missing ++ " in test command: " ++ line⟩

end Error

namespace Command

/-- Read the words of a test command behind its two leading ones. -/
def ofTestWords (line : String) : List String → Except Error Command
  | [] => .error (.incompleteTest "deployment id" line)
  | [_] => .error (.incompleteTest "test class name" line)
  | [_, _] => .error (.incompleteTest "method name" line)
  | id :: className :: method :: _ => .ok (.test id className method)

def parse (line : String) : Except Error Command :=
  if line = Request.stopCommand then .ok .stop
  else match Text.after? Request.undeployHead line with
    | some rest => .ok (.undeploy (Text.trim rest))
    | none =>
      if Text.startsWith Request.testHead line then ofTestWords line ((Text.words line).drop 2)
      else .error (.unsupportedCommand line)

theorem of_ofTestWords_ok {line : String} {words : List String} {command : Command}
    (read : ofTestWords line words = .ok command) :
    ∃ id className method rest, words = id :: className :: method :: rest ∧
      command = .test id className method := by
  match words with
  | [] | [_] | [_, _] => simp [ofTestWords] at read
  | id :: className :: method :: rest =>
    exact ⟨id, className, method, rest, rfl, (Except.ok.inj read).symm⟩

theorem of_ofTestWords_error {line : String} {words : List String} {error : Error}
    (read : ofTestWords line words = .error error) :
    ∃ missing ∈ ["deployment id", "test class name", "method name"],
      error = .incompleteTest missing line := by
  unfold ofTestWords at read
  split at read
  · exact ⟨_, List.mem_cons_self .., (Except.error.inj read).symm⟩
  · exact ⟨_, by simp, (Except.error.inj read).symm⟩
  · exact ⟨_, by simp, (Except.error.inj read).symm⟩
  · cases read

theorem parse_eq_stop_iff {line : String} : parse line = .ok .stop ↔ line = Request.stopCommand := by
  constructor
  · intro parsed
    unfold parse at parsed
    split at parsed
    · assumption
    · split at parsed
      · cases parsed
      · split at parsed
        · obtain ⟨_, _, _, _, _, other⟩ := of_ofTestWords_ok parsed
          cases other
        · cases parsed
  · exact fun stop => if_pos stop

/-- The lines that ask for an undeploy. -/
theorem parse_eq_undeploy_iff {line id : String} :
    parse line = .ok (.undeploy id) ↔
      ∃ rest, line = Request.undeployHead ++ rest ∧ Text.trim rest = id := by
  constructor
  · intro parsed
    unfold parse at parsed
    split at parsed
    · cases parsed
    · split at parsed
      · next rest begins =>
        cases parsed
        exact ⟨rest, Text.after?_eq_some_iff.mp begins, rfl⟩
      · split at parsed
        · obtain ⟨_, _, _, _, _, other⟩ := of_ofTestWords_ok parsed
          cases other
        · cases parsed
  · rintro ⟨rest, rfl, rfl⟩
    have begins : Text.after? Request.undeployHead (Request.undeployHead ++ rest) = some rest :=
      Text.after?_eq_some_iff.mpr rfl
    have different : Request.undeployHead ++ rest ≠ Request.stopCommand := by
      intro same
      rw [same] at begins
      cases (by decide : Text.after? Request.undeployHead Request.stopCommand = none).symm.trans begins
    rw [parse, if_neg different, begins]

/-- A line that begins as a test is read by its words. -/
theorem parse_testHead (rest : String) :
    parse (Request.testHead ++ rest) =
      ofTestWords (Request.testHead ++ rest) ((Text.words (Request.testHead ++ rest)).drop 2) := by
  have begins : Text.after? Request.testHead (Request.testHead ++ rest) = some rest :=
    Text.after?_eq_some_iff.mpr rfl
  have different : Request.testHead ++ rest ≠ Request.stopCommand := by
    intro same
    rw [same] at begins
    cases (by decide : Text.after? Request.testHead Request.stopCommand = none).symm.trans begins
  have noUndeploy : Text.after? Request.undeployHead (Request.testHead ++ rest) = none := by
    rw [Text.after?, String.toList_append]
    rfl
  have starts : Text.startsWith Request.testHead (Request.testHead ++ rest) = true := by
    rw [Text.startsWith, begins]
    rfl
  rw [parse, if_neg different, noUndeploy]
  exact if_pos starts

/-- The lines that ask for a test: further words are ignored. -/
theorem parse_eq_test_iff {line id className method : String} :
    parse line = .ok (.test id className method) ↔
      ∃ rest surplus, line = Request.testHead ++ rest ∧
        (Text.words line).drop 2 = id :: className :: method :: surplus := by
  constructor
  · intro parsed
    unfold parse at parsed
    split at parsed
    · cases parsed
    · split at parsed
      · cases parsed
      · split at parsed
        · next begins =>
          obtain ⟨rest, after⟩ := Option.isSome_iff_exists.mp begins
          obtain ⟨_, _, _, surplus, words, same⟩ := of_ofTestWords_ok parsed
          obtain ⟨rfl, rfl, rfl⟩ := Command.test.inj same
          exact ⟨rest, surplus, Text.after?_eq_some_iff.mp after, words⟩
        · cases parsed
  · rintro ⟨rest, surplus, rfl, words⟩
    rw [parse_testHead, words]
    rfl

end Command

end TestDaemon
