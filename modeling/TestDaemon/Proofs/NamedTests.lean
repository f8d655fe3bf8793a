import TestDaemon.Proofs.ConnectionSteps
import TestDaemon.Proofs.FaithfulNames
import TestDaemon.Proofs.Requests

/-! # The test that is run

The names of a test stand between blanks, and nothing marks where one of them ends. So the test that a
server runs is the one that the first three words of the first line name. Names that are words are these
three. Others are respelled: what follows a line break in them is lost, and a blank shifts a part of one
into the next.
-/

namespace TestDaemon

open Request

/-! ## The first line -/

/-- What stands before the first line feed. -/
def Text.firstLine (text : String) : String := String.ofList (text.toList.takeWhile (· ≠ '\n'))

theorem Text.firstLine_of_unbroken {text : String} (unbroken : Unbroken text) : firstLine text = text := by
  have whole : text.toList.takeWhile (· ≠ '\n') = text.toList := by
    refine List.takeWhile_eq_self_iff.mpr fun c member => decide_eq_true fun feed => ?_
    exact unbroken (feed ▸ member)
  rw [firstLine, whole, String.ofList_toList]

theorem Text.unbroken_firstLine (text : String) : Unbroken (firstLine text) := by
  intro member
  rw [firstLine, String.toList_ofList] at member
  simpa using List.mem_takeWhile_imp member

/-- A blank at the end is no part of a word. -/
theorem Text.wordsFrom_append_blank {c : Char} (blank : isBlank c = true) (run chars : List Char) :
    wordsFrom run (chars ++ [c]) = wordsFrom run chars := by
  fun_induction wordsFrom run chars with
  | case1 run empty => simp [wordsFrom, blank, empty]
  | case2 run shown => simp [wordsFrom, blank, shown]
  | case3 run first rest here empty ih => simp [wordsFrom, here, List.isEmpty_iff.mp empty, ih]
  | case4 run first rest here shown ih => simp [wordsFrom, here, shown, ih]
  | case5 run first rest visible ih => simp [wordsFrom, visible, ih]

theorem Utf8.takeWhile_encodeChars (chars : List Char) :
    (encodeChars chars).takeWhile (· != 0x0A) = encodeChars (chars.takeWhile (· ≠ '\n')) := by
  induction chars with
  | nil => rfl
  | cons c chars ih =>
    by_cases feed : c = '\n'
    · subst feed
      rfl
    · have clear : ∀ octet ∈ String.utf8EncodeChar c, (octet != 0x0A) = true := by
        refine fun octet member => bne_iff_ne.mpr ?_
        rintro rfl
        have inChar : (0x0A : UInt8) ∈ encodeChars [c] := by simpa [encodeChars] using member
        exact feed (List.mem_singleton.mp (of_mem_encodeChars inChar (by decide))).symm
      rw [encodeChars_cons, List.takeWhile_append_of_pos clear, ih, List.takeWhile_cons,
        if_pos (by simpa using feed), encodeChars_cons]

/-- The bytes of a first line are a text, with the words of the first line. -/
theorem Text.exists_firstLine (text : String) :
    ∃ line, TestDaemon.firstLine (Utf8.encode text) = Utf8.encode line ∧
      words line = words (firstLine text) := by
  have cut : (Utf8.encode text).takeWhile (· != 0x0A) = Utf8.encode (firstLine text) := by
    rw [Utf8.encode, Utf8.takeWhile_encodeChars, Utf8.encode, firstLine, String.toList_ofList]
  by_cases ends : (firstLine text).toList.getLast? = some '\r'
  · obtain ⟨front, shape⟩ := List.getLast?_eq_some_iff.mp ends
    have octets : Utf8.encode (firstLine text) = Utf8.encodeChars front ++ [0x0D] := by
      rw [Utf8.encode, shape, Utf8.encodeChars_append]
      rfl
    refine ⟨String.ofList front, ?_, ?_⟩
    · rw [TestDaemon.firstLine, cut, octets, if_pos List.getLast?_concat, List.dropLast_concat, Utf8.encode,
        String.toList_ofList]
    · rw [words, words, shape, String.toList_ofList, wordsFrom_append_blank (by decide)]
  · have line : OneLine (firstLine text) := ⟨unbroken_firstLine text, ends⟩
    refine ⟨firstLine text, ?_, rfl⟩
    rw [TestDaemon.firstLine, cut, if_neg line.getLast?_encode]

theorem OneLine.firstLine_append {head : String} (line : OneLine head) (rest : Bytes) :
    firstLine (Utf8.encode head ++ rest) = Utf8.encode head ++ firstLine rest := by
  have clear : ∀ octet ∈ Utf8.encode head, (octet != 0x0A) = true := fun octet member =>
    bne_iff_ne.mpr fun feed => line.not_mem_encode (feed ▸ member)
  simp only [firstLine, List.takeWhile_append_of_pos clear]
  rcases List.eq_nil_or_concat (rest.takeWhile (· != 0x0A)) with empty | ⟨front, last, shape⟩
  · rw [empty, List.append_nil, if_neg line.getLast?_encode]
    simp
  · rw [shape, List.concat_eq_append, ← List.append_assoc, List.getLast?_concat, List.getLast?_concat,
      List.dropLast_concat, List.dropLast_concat, apply_ite (Utf8.encode head ++ ·), List.append_assoc]

/-! ## The words of a request -/

/-- The names behind the head of a request for a test. -/
def Request.testNames (id className method : String) : String := id ++ " " ++ className ++ " " ++ method

namespace Request

theorem testCommand_eq (id className method : String) :
    testCommand id className method = testHead ++ testNames id className method := by
  simp only [testCommand, testNames, String.append_assoc]

theorem words_testHead (rest : String) :
    Text.words (testHead ++ rest) = "CMD" :: "test" :: Text.words rest := by
  have shape : (testHead ++ rest).toList =
      ("CMD" : String).toList ++ ' ' :: (("test" : String).toList ++ ' ' :: rest.toList) := by
    simp [testHead]
  rw [Text.words, shape, Text.wordsFrom_word (by decide), Text.wordsFrom_word (by decide)]
  simp [Text.words]

theorem words_testNames {id className method : String} (isId : IsWord id) (isClass : IsWord className)
    (isMethod : IsWord method) :
    Text.words (testNames id className method) = [id, className, method] := by
  have whole := Command.words_testCommand isId isClass isMethod
  rw [testCommand_eq, words_testHead] at whole
  exact (List.cons.inj (List.cons.inj whole).2).2

theorem firstLine_testNames {id className method : String} (isId : IsWord id) (isClass : IsWord className)
    (isMethod : IsWord method) :
    Text.firstLine (testNames id className method) = testNames id className method := by
  have word {name : String} (isWord : IsWord name) : Unbroken name := (OneLine.of_clear isWord.clear).noFeed
  refine Text.firstLine_of_unbroken ?_
  simp only [testNames, unbroken_append]
  exact ⟨⟨⟨⟨word isId, by decide⟩, word isClass⟩, by decide⟩, word isMethod⟩

/-- A request for a test is read as one, with the words of its first line. -/
theorem exists_commandLine_test (id className method : String) :
    ∃ line, Command.parse line =
        Command.ofTestWords line (Text.words (Text.firstLine (testNames id className method))) ∧
      commandLine (Utf8.encode (testCommand id className method)) =
        if commandLineLimit < (firstLine (Utf8.encode (testCommand id className method))).length then
          .error .commandLineTooLong
        else .ok line := by
  obtain ⟨line, octets, words⟩ := Text.exists_firstLine (testNames id className method)
  have head : OneLine testHead := by decide
  have whole : firstLine (Utf8.encode (testCommand id className method)) = Utf8.encode (testHead ++ line) := by
    rw [testCommand_eq, Utf8.encode_append, head.firstLine_append, octets, Utf8.encode_append]
  refine ⟨testHead ++ line, ?_, ?_⟩
  · rw [Command.parse_testHead, words_testHead, words]
    rfl
  · rw [commandLine, whole, Utf8.decodeLossy_encode]

end Request

namespace Context

variable {context : Context}

/-- The test that words name, if its archive is there. Further words are ignored. -/
def testOf? (context : Context) : List String → Option (Archive × String × String)
  | id :: className :: method :: _ =>
    (context.store.get? id).map fun archive => (archive, className, method)
  | _ => none

/-- The test that a request comes to: that of the words of its first line, if that is not too long. -/
def namedTest? (context : Context) (limit : Nat) (id className method : String) :
    Option (Archive × String × String) :=
  let body := Utf8.encode (testCommand id className method)
  if limit < body.length ∨ commandLineLimit < (firstLine body).length then none
  else context.testOf? (Text.words (Text.firstLine (testNames id className method)))

/-- Names that are words name themselves. -/
theorem of_namedTest? {limit : Nat} {id className method : String} (isId : IsWord id)
    (isClass : IsWord className) (isMethod : IsWord method) {test : Archive × String × String}
    (named : context.namedTest? limit id className method = some test) :
    context.store.get? id = some test.1 ∧ test.2 = (className, method) := by
  simp only [namedTest?, firstLine_testNames isId isClass isMethod, words_testNames isId isClass isMethod]
    at named
  split at named
  · cases named
  · obtain ⟨archive, stored, rfl⟩ := Option.map_eq_some_iff.mp named
    exact ⟨stored, rfl⟩

theorem namedTest?_of_words {limit : Nat} {id className method : String} {words : List String}
    {test : Archive × String × String}
    (fits : (Utf8.encode (testCommand id className method)).length ≤ limit)
    (short : (firstLine (Utf8.encode (testCommand id className method))).length ≤ commandLineLimit)
    (read : Text.words (Text.firstLine (testNames id className method)) = words)
    (names : context.testOf? words = some test) :
    context.namedTest? limit id className method = some test := by
  rw [namedTest?, if_neg (not_or.mpr ⟨Nat.not_lt.mpr fits, Nat.not_lt.mpr short⟩), read, names]

theorem respond_of_testOf?_some {line className method : String} {words : List String} {archive : Archive}
    (parsed : Command.parse line = Command.ofTestWords line words)
    (named : context.testOf? words = some (archive, className, method)) (services : Services) :
    context.respond services line = (.ofTest services.executor archive className method, context) := by
  match words with
  | [] | [_] | [_, _] => cases named
  | id :: _ :: _ :: _ =>
    obtain ⟨_, stored, same⟩ := Option.map_eq_some_iff.mp named
    cases same
    simp only [respond, execute, parsed, Command.ofTestWords, invoke, stored, Reply.ofTest]
    cases services.executor archive className method <;> rfl

theorem respond_of_testOf?_none {line : String} {words : List String}
    (parsed : Command.parse line = Command.ofTestWords line words)
    (unnamed : context.testOf? words = none) :
    ∃ error, ∀ services, context.respond services line = (.ofError error, context) := by
  match words with
  | [] | [_] | [_, _] =>
    obtain ⟨error, failed⟩ : ∃ error, Command.parse line = .error error := ⟨_, parsed⟩
    refine ⟨error, fun services => ?_⟩
    simp only [respond, execute, failed]
  | id :: _ :: _ :: _ =>
    have absent : context.store.get? id = none := Option.map_eq_none_iff.mp unnamed
    refine ⟨.notDeployed id, fun services => ?_⟩
    simp only [respond, execute, parsed, Command.ofTestWords, invoke, absent]
    rfl

end Context

/-! ## The session of one request -/

/-- The session of a single frame that is free of delimiters. -/
theorem Session.ofStream_request (importer : Importer) (executor : Executor) (context : Context)
    (limit : Nat) {body : Bytes} (clear : ¬ delimiter <:+: body) :
    ofStream { importer, executor } limit (Connection.new context limit .unlimited) (body ++ delimiter) =
      if limit < body.length then overlong limit context
      else ofRequests { importer, executor } context [(Dispatcher.new.dispatch body).1] := by
  have undisturbed := Connection.undisturbed_new importer executor context limit
  have start : (Connection.new context limit .unlimited).context = context := rfl
  have fresh : (Connection.new context limit .unlimited).dispatcher = .new := rfl
  rw [ofStream, Frame.cut_append_delimiter, Frame.cut_of_clear clear]
  have noTail : ¬ limit + delimiter.length < ([] : Bytes).length := Nat.not_lt.mpr (Nat.zero_le _)
  cases answered : context.answer { importer, executor } (Dispatcher.new.dispatch body).1 with
  | mk result output after =>
    rcases result with error | (proceed | close) <;>
      simp only [List.nil_append, ofFrames, undisturbed.handleFrame, start, fresh, ofRequests, answered,
        if_neg noTail]

/-! ## The test that is run -/

namespace Connection

/-- The session of a new connection that reads until its peer is done. -/
def served (context : Context) (limit : Nat) (reads : List Bytes) (importer : Importer)
    (executor : Executor) : Session :=
  ((Connection.new context limit .unlimited).run { importer, executor } (reads.map .received)).session

/-- What a connection does for its reads, whatever its importer and its executor are: it has the executor
run one test, and replies with what comes of that, or it runs nothing, and replies with an error. -/
inductive Serves (context : Context) (limit : Nat) (reads : List Bytes) :
    Option (Archive × String × String) → Prop
  | test {archive : Archive} {className method : String} (ran : ∀ importer executor,
      served context limit reads importer executor =
        ⟨(Reply.ofTest executor archive className method).encode, .ok (), context⟩) :
    Serves context limit reads (some (archive, className, method))
  | error {text : String} {finish : Except Error Unit} (replied : ∀ importer executor,
      served context limit reads importer executor = ⟨(Reply.failed text).encode, finish, context⟩) :
    Serves context limit reads none

/-- Whether a connection runs no other test than the one that is named. -/
def RunsOnly (context : Context) (limit : Nat) (reads : List Bytes) (id className method : String) : Prop :=
  (∃ archive, context.store.get? id = some archive ∧
    Serves context limit reads (some (archive, className, method))) ∨ Serves context limit reads none

variable {context : Context} {limit : Nat} {reads : List Bytes}

theorem Serves.of_error (error : Error) (replied : ∀ importer executor,
    served context limit reads importer executor = ⟨(Reply.ofError error).encode, .ok (), context⟩) :
    Serves context limit reads none := .error replied

/-- Two failures that a peer can tell apart. -/
theorem told_apart : (Reply.ofError ⟨.execution, "a"⟩).encode ≠ (Reply.ofError ⟨.execution, "b"⟩).encode := by
  decide +kernel

/-- What a connection does is told by its sessions. -/
theorem Serves.unique {first second : Option (Archive × String × String)}
    (serves : Serves context limit reads first) (other : Serves context limit reads second) :
    first = second := by
  -- A reply to every failure of a test is not the same one for all of them.
  have varies {archive : Archive} {className method text : String} {finish : Except Error Unit}
      (ran : ∀ importer executor, served context limit reads importer executor =
        ⟨(Reply.ofTest executor archive className method).encode, .ok (), context⟩)
      (replied : ∀ importer executor, served context limit reads importer executor =
        ⟨(Reply.failed text).encode, finish, context⟩) : False := by
    have output (message : String) :
        (Reply.ofError ⟨.execution, message⟩).encode = (Reply.failed text).encode := by
      have same := (ran (fun _ _ => .ok archive) fun _ _ _ => .error ⟨.execution, message⟩).symm.trans (replied ..)
      exact congrArg Session.output same
    exact told_apart ((output "a").trans (output "b").symm)
  cases serves with
  | @test archive className method ran =>
    cases other with
    | error replied => exact (varies ran replied).elim
    | @test archive' className' method' ran' =>
      by_contra different
      classical
      -- An executor that fails the two tests differently.
      let executor : Executor := fun archive'' className'' method'' =>
        if (archive'', className'', method'') = (archive, className, method) then .error ⟨.execution, "a"⟩
        else .error ⟨.execution, "b"⟩
      have failed : executor archive className method = .error ⟨.execution, "a"⟩ := if_pos rfl
      have failed' : executor archive' className' method' = .error ⟨.execution, "b"⟩ :=
        if_neg fun equal => different (congrArg some equal.symm)
      have same := (ran (fun _ _ => .ok archive) executor).symm.trans (ran' _ executor)
      simp only [Reply.ofTest, failed, failed'] at same
      exact told_apart (congrArg Session.output same)
  | error replied =>
    cases other with
    | error => rfl
    | test ran => exact (varies ran replied).elim

theorem served_test (context : Context) (limit : Nat) {id className method : String}
    (clear : ∀ name ∈ [id, className, method], ¬ HoldsDelimiter name)
    (division : reads.flatten = ofCommand (testCommand id className method)) (importer : Importer)
    (executor : Executor) :
    served context limit reads importer executor =
      if limit < (Utf8.encode (testCommand id className method)).length then Session.overlong limit context
      else Session.ofRequests { importer, executor } context
        [(commandLine (Utf8.encode (testCommand id className method))).map .command] := by
  have clearName (name : String) (member : name ∈ [id, className, method]) :
      ¬ delimiter <:+: Utf8.encode name := mt holdsDelimiter_iff.mpr (clear name member)
  have clearBody := clear_testCommand (clearName id (by simp)) (clearName className (by simp))
    (clearName method (by simp))
  have undisturbed := Connection.undisturbed_new importer executor context limit
  have stream := Session.ofStream_request importer executor context limit clearBody
  rw [Dispatcher.dispatch_new_of_command (marked_testCommand id className method)] at stream
  have run : served context limit reads importer executor =
      Session.ofStream { importer, executor } limit (.new context limit .unlimited) reads.flatten :=
    undisturbed.run (FrameDecoder.searched_new limit) rfl reads
  rw [run, division, ofCommand, stream]

theorem serves_of_clear (context : Context) (limit : Nat) {id className method : String}
    (clear : ∀ name ∈ [id, className, method], ¬ HoldsDelimiter name)
    (division : reads.flatten = ofCommand (testCommand id className method)) :
    Serves context limit reads (context.namedTest? limit id className method) := by
  have session := served_test context limit clear division
  obtain ⟨line, parsed, read⟩ := exists_commandLine_test id className method
  rw [Context.namedTest?]
  generalize Utf8.encode (testCommand id className method) = body at session read ⊢
  by_cases overlong : limit < body.length
  · rw [if_pos (.inl overlong)]
    have refused (importer : Importer) (executor : Executor) :
        served context limit reads importer executor =
          ⟨(Reply.failed (Error.frameTooLong limit).message).encode, .error (.frameTooLong limit), context⟩ := by
      rw [session, if_pos overlong, Session.overlong, ← Error.frameTooLong_line]
      rfl
    exact .error refused
  by_cases long : commandLineLimit < (firstLine body).length
  · rw [if_pos (.inr long)]
    refine .of_error .commandLineTooLong fun importer executor => ?_
    rw [session, if_neg overlong, read, if_pos long]
    rfl
  rw [if_neg (not_or.mpr ⟨overlong, long⟩)]
  -- What is left is the reply to the line.
  have replied (importer : Importer) (executor : Executor) :
      served context limit reads importer executor =
        ⟨(context.respond { importer, executor } line).1.encode, .ok (),
          (context.respond { importer, executor } line).2⟩ := by
    rw [session, if_neg overlong, read, if_neg long]
    simp only [Except.map, Session.ofRequests, Context.answer, Session.behind, List.append_nil]
  cases named : context.testOf? (Text.words (Text.firstLine (testNames id className method))) with
  | some test =>
    refine .test fun importer executor => ?_
    rw [replied, Context.respond_of_testOf?_some parsed named]
  | none =>
    obtain ⟨error, responds⟩ := Context.respond_of_testOf?_none parsed named
    refine .of_error error fun importer executor => ?_
    rw [replied, responds]

/-- Another test is run exactly if the words of the first line name another one. -/
theorem runsOnly_iff {id className method : String}
    (clear : ∀ name ∈ [id, className, method], ¬ HoldsDelimiter name)
    (division : reads.flatten = ofCommand (testCommand id className method)) :
    RunsOnly context limit reads id className method ↔
      ∀ test, context.namedTest? limit id className method = some test →
        context.store.get? id = some test.1 ∧ test.2 = (className, method) := by
  have serves := serves_of_clear context limit clear division
  constructor
  · rintro (⟨archive, stored, runs⟩ | silent) test named
    · cases (runs.unique serves).trans named
      exact ⟨stored, rfl⟩
    · cases (silent.unique serves).trans named
  · intro same
    cases named : context.namedTest? limit id className method with
    | none => exact .inr (named ▸ serves)
    | some test =>
      obtain ⟨archive, names⟩ := test
      obtain ⟨stored, rfl⟩ := same _ named
      exact .inl ⟨archive, stored, named ▸ serves⟩

/-- A request for a test comes to the test that the words of its first line name, and names that are words
name no other. -/
theorem serves_namedTest (context : Context) (limit : Nat) (reads : List Bytes)
    {id className method : String} (clear : ∀ name ∈ [id, className, method], ¬ HoldsDelimiter name)
    (division : reads.flatten = ofCommand (testCommand id className method)) :
    Serves context limit reads (context.namedTest? limit id className method) ∧
      ((∀ name ∈ [id, className, method], IsWord name) →
        RunsOnly context limit reads id className method) := by
  refine ⟨serves_of_clear context limit clear division, fun words => ?_⟩
  exact (runsOnly_iff clear division).mpr fun test named =>
    Context.of_namedTest? (words id (by simp)) (words className (by simp)) (words method (by simp)) named

theorem serves_namedTest_stored :
    let archive := Archive.new "a"
    let context := Context.new (Store.empty.insert "a" archive).2
    let reads := [Utf8.encode "CMD test a C", Utf8.encode " m<<E", Utf8.encode "OF"]
    (∀ name ∈ ["a", "C", "m"], ¬ HoldsDelimiter name) ∧
      reads.flatten = ofCommand (testCommand "a" "C" "m") ∧
      Serves context 14 reads (some (archive, "C", "m")) ∧ (∀ name ∈ ["a", "C", "m"], IsWord name) ∧
      RunsOnly context 14 reads "a" "C" "m" := by
  intro archive context reads
  have clear : ∀ name ∈ ["a", "C", "m"], ¬ HoldsDelimiter name := by decide +kernel
  have division : reads.flatten = ofCommand (testCommand "a" "C" "m") := by decide +kernel
  have words : ∀ name ∈ ["a", "C", "m"], IsWord name := by decide +kernel
  have read : Text.words (Text.firstLine (testNames "a" "C" "m")) = ["a", "C", "m"] := by decide +kernel
  have named : context.namedTest? 14 "a" "C" "m" = some (archive, "C", "m") :=
    Context.namedTest?_of_words (by decide +kernel) (by decide +kernel) read rfl
  obtain ⟨serves, only⟩ := serves_namedTest context 14 reads clear division
  exact ⟨clear, division, named ▸ serves, words, only words⟩

/-- A blank in an ID ends it, even if the ID is deployed. -/
theorem not_runsOnly_blank :
    let context := Context.new ((Store.empty.insert "a" (.new "a")).2.insert "a b" (.new "a b")).2
    (∀ name ∈ ["a b", "C", "fails"], ¬ HoldsDelimiter name) ∧
      ¬ RunsOnly context 100 [ofCommand (testCommand "a b" "C" "fails")] "a b" "C" "fails" := by
  intro context
  have clear : ∀ name ∈ ["a b", "C", "fails"], ¬ HoldsDelimiter name := by decide +kernel
  have read : Text.words (Text.firstLine (testNames "a b" "C" "fails")) = ["a", "b", "C", "fails"] := by
    decide +kernel
  have named : context.namedTest? 100 "a b" "C" "fails" = some (.new "a", "b", "C") :=
    Context.namedTest?_of_words (by decide +kernel) (by decide +kernel) read rfl
  refine ⟨clear, fun only => ?_⟩
  have same := (runsOnly_iff clear (List.append_nil _)).mp only _ named
  exact absurd same.2 (by decide)

end Connection

end TestDaemon
