import TestDaemon.Dispatch
import TestDaemon.Proofs.Fallible
import TestDaemon.Proofs.Utf8

/-! # What a dispatcher makes of a frame

A frame is classified behind the bytes that are carried over: they are too few together, or they begin with
one of the two markers, or with a foreign one. Only what is too short is carried on.
-/

namespace TestDaemon

open Request

/-! ## Markers -/

/-- Whether bytes begin with neither of the two markers. -/
def Request.IsForeign (body : Bytes) : Prop :=
  3 ≤ body.length ∧ ¬ commandMarker <+: body ∧ ¬ deployMarker <+: body

instance (body : Bytes) : Decidable (IsForeign body) := inferInstanceAs (Decidable (_ ∧ _))

namespace Marker

variable {body : Bytes}

theorem of_eq_incomplete (short : body.length < 3) : Marker.of body = .incomplete := if_pos short

theorem of_eq_command (marked : commandMarker <+: body) : Marker.of body = .command := by
  have long : ¬ body.length < 3 := Nat.not_lt.mpr marked.length_le
  have begins : body.take 3 = commandMarker := (List.prefix_iff_eq_take.mp marked).symm
  rw [Marker.of, if_neg long, if_pos begins]

theorem of_eq_deploy (marked : deployMarker <+: body) : Marker.of body = .deploy := by
  have long : ¬ body.length < 3 := Nat.not_lt.mpr marked.length_le
  have begins : body.take 3 = deployMarker := (List.prefix_iff_eq_take.mp marked).symm
  rw [Marker.of, if_neg long, begins, if_neg (by decide), if_pos rfl]

theorem of_eq_unknown (foreign : IsForeign body) : Marker.of body = .unknown := by
  obtain ⟨long, noCommand, noDeploy⟩ := foreign
  have notCommand : body.take 3 ≠ commandMarker := fun begins =>
    noCommand (begins ▸ List.take_prefix 3 body)
  have notDeploy : body.take 3 ≠ deployMarker := fun begins =>
    noDeploy (begins ▸ List.take_prefix 3 body)
  rw [Marker.of, if_neg (Nat.not_lt.mpr long), if_neg notCommand, if_neg notDeploy]

/-- Bytes are too short for a marker, or they begin with one of the two, or with another one. -/
theorem cases_of (body : Bytes) :
    body.length < 3 ∨ commandMarker <+: body ∨ deployMarker <+: body ∨ IsForeign body := by
  by_cases short : body.length < 3
  · exact .inl short
  · by_cases command : commandMarker <+: body
    · exact .inr (.inl command)
    · by_cases deploy : deployMarker <+: body
      · exact .inr (.inr (.inl deploy))
      · exact .inr (.inr (.inr ⟨Nat.not_lt.mp short, command, deploy⟩))

theorem not_both (command : commandMarker <+: body) : ¬ deployMarker <+: body := fun deploy => by
  cases (of_eq_command command).symm.trans (of_eq_deploy deploy)

end Marker

namespace Request

theorem marked_append {head : String} (marked : commandMarker <+: Utf8.encode head) (rest : String) :
    commandMarker <+: Utf8.encode (head ++ rest) := by
  rw [Utf8.encode_append]
  exact marked.trans (List.prefix_append _ _)

theorem marked_undeployCommand (id : String) : commandMarker <+: Utf8.encode (undeployCommand id) :=
  marked_append (by decide +kernel) id

theorem marked_testCommand (id className method : String) :
    commandMarker <+: Utf8.encode (testCommand id className method) := by
  simp only [testCommand, String.append_assoc]
  exact marked_append (by decide +kernel) _

end Request

/-! ## Lines -/

/-- A command that keeps to the limit, and its line. -/
structure Request.HoldsLine (body : Bytes) (line : String) : Prop where
  marked : commandMarker <+: body
  read : commandLine body = .ok line

theorem commandLine_eq_ok_iff {body : Bytes} {line : String} :
    commandLine body = .ok line ↔
      (firstLine body).length ≤ commandLineLimit ∧ Utf8.decodeLossy (firstLine body) = line := by
  rw [commandLine]
  split
  · next long => simp [Nat.not_le.mpr long]
  · next short => simp [Nat.not_lt.mp short]

theorem commandLine_eq_error_iff {body : Bytes} {error : Error} :
    commandLine body = .error error ↔
      commandLineLimit < (firstLine body).length ∧ error = .commandLineTooLong := by
  rw [commandLine]
  split
  · next long => simp [long, eq_comm]
  · next short => simp [short]

/-! ## Frames -/

namespace Dispatcher

variable {dispatcher : Dispatcher} {frame : Bytes} {line : String} {error : Error}

theorem dispatch_of_short (short : (dispatcher.carried ++ frame).length < 3) :
    dispatcher.dispatch frame = (.ok .pending, ⟨dispatcher.carried ++ frame⟩) := by
  simp only [dispatch, Marker.of_eq_incomplete short]

theorem dispatch_of_command (marked : commandMarker <+: dispatcher.carried ++ frame) :
    dispatcher.dispatch frame = ((commandLine (dispatcher.carried ++ frame)).map .command, new) := by
  simp only [dispatch, Marker.of_eq_command marked]

theorem dispatch_of_deploy (marked : deployMarker <+: dispatcher.carried ++ frame) :
    dispatcher.dispatch frame = (.ok (.deploy ((dispatcher.carried ++ frame).drop 4)), new) := by
  simp only [dispatch, Marker.of_eq_deploy marked]

theorem dispatch_of_foreign (foreign : IsForeign (dispatcher.carried ++ frame)) :
    dispatcher.dispatch frame = (.ok .unsupported, new) := by
  simp only [dispatch, Marker.of_eq_unknown foreign]

/-- A new dispatcher carries nothing over. -/
theorem dispatch_new_of_command (marked : commandMarker <+: frame) :
    new.dispatch frame = ((commandLine frame).map .command, new) := dispatch_of_command marked

theorem carried_dispatch (dispatcher : Dispatcher) (frame : Bytes) :
    (dispatcher.dispatch frame).2.carried.length < 3 := by
  have fresh : new.carried.length < 3 := by decide
  rcases Marker.cases_of (dispatcher.carried ++ frame) with short | command | deploy | foreign
  · rwa [dispatch_of_short short]
  · exact dispatch_of_command command ▸ fresh
  · exact dispatch_of_deploy deploy ▸ fresh
  · exact dispatch_of_foreign foreign ▸ fresh

theorem holdsLine_of_dispatch (dispatched : (dispatcher.dispatch frame).1 = .ok (.command line)) :
    HoldsLine (dispatcher.carried ++ frame) line := by
  rcases Marker.cases_of (dispatcher.carried ++ frame) with short | command | deploy | foreign
  · simp [dispatch_of_short short] at dispatched
  · rw [dispatch_of_command command] at dispatched
    obtain ⟨text, read, same⟩ := map_eq_ok_iff.mp dispatched
    obtain rfl := Dispatch.command.inj same
    exact ⟨command, read⟩
  · simp [dispatch_of_deploy deploy] at dispatched
  · simp [dispatch_of_foreign foreign] at dispatched

theorem of_dispatch_error (dispatched : (dispatcher.dispatch frame).1 = .error error) :
    error = .commandLineTooLong := by
  rcases Marker.cases_of (dispatcher.carried ++ frame) with short | command | deploy | foreign
  · simp [dispatch_of_short short] at dispatched
  · rw [dispatch_of_command command] at dispatched
    exact (commandLine_eq_error_iff.mp (map_eq_error_iff.mp dispatched)).2
  · simp [dispatch_of_deploy deploy] at dispatched
  · simp [dispatch_of_foreign foreign] at dispatched

theorem of_dispatch_deploy {archive : Bytes}
    (dispatched : (dispatcher.dispatch frame).1 = .ok (.deploy archive)) :
    archive = (dispatcher.carried ++ frame).drop 4 := by
  rcases Marker.cases_of (dispatcher.carried ++ frame) with short | command | deploy | foreign
  · simp [dispatch_of_short short] at dispatched
  · rw [dispatch_of_command command] at dispatched
    obtain ⟨line, -, same⟩ := map_eq_ok_iff.mp dispatched
    cases same
  · simpa [dispatch_of_deploy deploy] using dispatched.symm
  · simp [dispatch_of_foreign foreign] at dispatched

/-- Dispatch frames in order. -/
def dispatchAll (dispatcher : Dispatcher) : List Bytes → List (Except Error Dispatch)
  | [] => []
  | frame :: frames =>
    let dispatched := dispatcher.dispatch frame
    dispatched.1 :: dispatched.2.dispatchAll frames

end Dispatcher

end TestDaemon
