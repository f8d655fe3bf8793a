import TestDaemon.Proofs.DeclaredName
import TestDaemon.Proofs.Dispatching
import TestDaemon.Proofs.Remote
import TestDaemon.Proofs.Unbroken

/-! # Names that come through

A command is sent as a text in which its names stand as they are, between blanks and before a delimiter that
nothing escapes. What is read of such a text has names of one line without a delimiter, trimmed or free of
blanks, and keeps to the limit of a line. So these are the commands that come through, and no other command
is read of its own text, not even besides others.
-/

namespace TestDaemon

open Request

/-! ## Delimiters -/

namespace Request

/-- Whether a text holds what is the end of a request. -/
def HoldsDelimiter (text : String) : Prop := ("<<EOF" : String).toList <:+: text.toList

instance (text : String) : Decidable (HoldsDelimiter text) :=
  inferInstanceAs (Decidable (_ <:+: _))

theorem charOf_delimiter : delimiter.map Utf8.charOf = ("<<EOF" : String).toList := by decide

theorem holdsDelimiter_iff {text : String} : HoldsDelimiter text ↔ delimiter <:+: Utf8.encode text := by
  rw [Utf8.infix_encode_iff (by decide) (Utf8.isPlain_of_all (by decide)), charOf_delimiter, HoldsDelimiter]

theorem holdsDelimiter_decodeLossy_iff {bytes : Bytes} :
    HoldsDelimiter (Utf8.decodeLossy bytes) ↔ delimiter <:+: bytes := by
  rw [← Utf8.infix_decodeLossy_iff (by decide) (Utf8.isPlain_of_all (by decide)), charOf_delimiter,
    HoldsDelimiter]

/-- An occurrence does not begin before its first byte. -/
theorem infix_of_append {front back : Bytes} (foreign : 0x3C ∉ front)
    (occurs : delimiter <:+: front ++ back) : delimiter <:+: back := by
  induction front with
  | nil => exact occurs
  | cons byte front ih =>
    obtain ⟨different, rest⟩ := not_or.mp (fun either => foreign (List.mem_cons.mpr either))
    rcases List.infix_cons_iff.mp occurs with begins | later
    · exact absurd (List.cons_prefix_cons.mp begins).1 different
    · exact ih rest later

end Request

/-- The frames of a body before a delimiter: what ends at its own delimiters, and the rest. -/
theorem Frame.cut_append_delimiter (body : Bytes) :
    cut (body ++ delimiter) = ((cut body).1 ++ [(cut body).2], []) := by
  have last : cut ((cut body).2 ++ delimiter) = ([(cut body).2], []) := by
    refine cut_eq_iff.mpr ⟨by simp, ?_, by decide⟩
    simpa using (cut_clear body).2
  rw [cut_append, last]

theorem Frame.cut_of_clear {body : Bytes} (clear : ¬ delimiter <:+: body) : cut body = ([], body) :=
  cut_of_none (splitFirst?_eq_none_iff.mpr clear)

/-! ## Words -/

namespace Text

theorem wordsFrom_ne_nil {run chars : List Char} : ∀ word ∈ wordsFrom run chars, word ≠ [] := by
  fun_induction wordsFrom run chars with
  | case1 => simp
  | case2 run shown => simpa using shown
  | case3 run c rest blank empty ih => exact ih
  | case4 run c rest blank shown ih =>
    intro word member
    rcases List.mem_cons.mp member with rfl | later
    · simpa using shown
    · exact ih word later
  | case5 run c rest visible ih => exact ih

theorem wordsFrom_infix {run chars : List Char} :
    ∀ word ∈ wordsFrom run chars, word <:+: run.reverse ++ chars := by
  have behind {word front rest : List Char} {c : Char} (inside : word <:+: rest) :
      word <:+: front ++ c :: rest :=
    inside.trans ((List.suffix_cons c rest).isInfix.trans (List.suffix_append front _).isInfix)
  fun_induction wordsFrom run chars with
  | case1 => simp
  | case2 run shown => simp
  | case3 run c rest blank empty ih => exact fun word member => behind (ih word member)
  | case4 run c rest blank shown ih =>
    intro word member
    rcases List.mem_cons.mp member with rfl | later
    · exact (List.prefix_append _ _).isInfix
    · exact behind (ih word later)
  | case5 run c rest visible ih => simpa using ih

theorem isWord_of_mem_words {text word : String} (member : word ∈ words text) : IsWord word := by
  obtain ⟨chars, inWords, rfl⟩ := List.mem_map.mp member
  refine ⟨fun empty => wordsFrom_ne_nil chars inWords ?_, ?_⟩
  · rw [← String.toList_ofList (l := chars), empty]
    rfl
  · rw [String.toList_ofList]
    exact wordsFrom_visible (by simp) chars inWords

theorem infix_of_mem_words {text word : String} (member : word ∈ words text) :
    word.toList <:+: text.toList := by
  obtain ⟨chars, inWords, rfl⟩ := List.mem_map.mp member
  rw [String.toList_ofList]
  exact wordsFrom_infix chars inWords

end Text

/-! ## Commands -/

namespace Command

/-- The text that a command is sent as. -/
def text : Command → String
  | stop => stopCommand
  | undeploy id => undeployCommand id
  | test id className method => testCommand id className method

/-- Whether the names of a command are such as a line can give, whatever its length. -/
def IsRegular : Command → Prop
  | stop => True
  | undeploy id => Text.trim id = id ∧ Unbroken id ∧ ¬ HoldsDelimiter id
  | test id className method => ∀ name ∈ [id, className, method], IsWord name ∧ ¬ HoldsDelimiter name

/-- The commands that come through. A line has at most 2000 bytes, and 13 of an undeploy stand before its
ID. -/
def IsFaithful : Command → Prop
  | stop => True
  | undeploy id =>
    id = Text.trim id ∧ '\n' ∉ id.toList ∧ ¬ HoldsDelimiter id ∧ (Utf8.encode id).length ≤ 1987
  | test id className method =>
    (∀ name ∈ [id, className, method], IsWord name ∧ ¬ HoldsDelimiter name) ∧
      (Utf8.encode (testCommand id className method)).length ≤ 2000

instance : (command : Command) → Decidable command.IsFaithful
  | stop => inferInstanceAs (Decidable True)
  | undeploy _ => inferInstanceAs (Decidable (_ ∧ _))
  | test .. => inferInstanceAs (Decidable (_ ∧ _))

theorem marked_text (command : Command) : commandMarker <+: Utf8.encode command.text := by
  cases command with
  | stop => exact (by decide +kernel : commandMarker <+: Utf8.encode stopCommand)
  | undeploy id => exact marked_undeployCommand id
  | test id className method => exact marked_testCommand id className method

theorem isFaithful_iff {command : Command} :
    command.IsFaithful ↔
      command.IsRegular ∧ (Utf8.encode command.text).length ≤ commandLineLimit := by
  cases command with
  | stop => exact iff_of_true trivial ⟨trivial, by decide +kernel⟩
  | undeploy id =>
    have head : (Utf8.encode undeployHead).length = 13 := by decide +kernel
    have length : (Utf8.encode (undeployCommand id)).length = 13 + (Utf8.encode id).length := by
      rw [undeployCommand, Utf8.encode_append, List.length_append, head]
    have bound : (Utf8.encode (undeployCommand id)).length ≤ commandLineLimit ↔
        (Utf8.encode id).length ≤ 1987 := by
      rw [length, commandLineLimit]
      omega
    simp only [IsFaithful, IsRegular, text, bound, Unbroken, eq_comm (a := id), and_assoc]
  | test id className method => exact Iff.rfl

/-- What a line without a delimiter gives is regular. -/
theorem isRegular_of_parse {line : String} {command : Command} (parsed : parse line = .ok command)
    (unbroken : Unbroken line) (clear : ¬ HoldsDelimiter line) : command.IsRegular := by
  cases command with
  | stop => trivial
  | undeploy id =>
    have unbrokenId := unbroken_of_parse_undeploy unbroken parsed
    obtain ⟨rest, rfl, rfl⟩ := parse_eq_undeploy_iff.mp parsed
    refine ⟨Text.trim_trim rest, unbrokenId, fun occurs => clear ?_⟩
    rw [HoldsDelimiter, String.toList_append]
    exact (occurs.trans (Text.trim_infix rest)).trans (List.suffix_append _ _).isInfix
  | test id className method =>
    obtain ⟨_, surplus, -, words⟩ := parse_eq_test_iff.mp parsed
    intro name member
    have inLine : name ∈ Text.words line := by
      refine List.drop_subset 2 _ ?_
      rw [words]
      exact List.mem_append_left surplus member
    exact ⟨Text.isWord_of_mem_words inLine, fun occurs => clear (occurs.trans (Text.infix_of_mem_words inLine))⟩

namespace IsRegular

variable {command : Command}

theorem oneLine (regular : command.IsRegular) : OneLine command.text := by
  cases command with
  | stop => exact (by decide : OneLine stopCommand)
  | undeploy id => exact oneLine_undeployCommand (.of_trimmed regular.2.1 regular.1)
  | test id className method =>
    have names : ∀ name ∈ [id, className, method], OneLine name := fun name member =>
      OneLine.of_clear (regular name member).1.clear
    exact oneLine_testCommand (names id (by simp)) (names className (by simp)) (names method (by simp))

theorem clear (regular : command.IsRegular) : ¬ delimiter <:+: Utf8.encode command.text := by
  cases command with
  | stop => exact (by decide +kernel : ¬ delimiter <:+: Utf8.encode stopCommand)
  | undeploy id => exact clear_undeployCommand (mt holdsDelimiter_iff.mpr regular.2.2)
  | test id className method =>
    have names : ∀ name ∈ [id, className, method], ¬ delimiter <:+: Utf8.encode name :=
      fun name member => mt holdsDelimiter_iff.mpr (regular name member).2
    exact clear_testCommand (names id (by simp)) (names className (by simp)) (names method (by simp))

theorem parse_text (regular : command.IsRegular) : parse command.text = .ok command := by
  cases command with
  | stop => exact parse_eq_stop_iff.mpr rfl
  | undeploy id => exact parse_undeploy regular.1
  | test id className method =>
    exact parse_test (regular id (by simp)).1 (regular className (by simp)).1 (regular method (by simp)).1

end IsRegular

end Command

/-! ## What is read of a stream -/

/-- The command that a dispatched frame asks for, if it asks for one. -/
def Request.command? : Except Error Dispatch → Except Error (Option Command)
  | .error error => .error error
  | .ok (.command line) => (Command.parse line).map some
  | .ok (.deploy _) | .ok .unsupported | .ok .pending => .ok none

/-- What a new decoder, a new dispatcher and the grammar of commands make of reads. -/
def Request.readings (limit : Nat) (reads : List Bytes) : List (Except Error (Option Command)) :=
  let received := (FrameDecoder.new limit).receive reads
  (Dispatcher.new.dispatchAll received.frames).map command? ++ received.error.toList.map .error

namespace Request

theorem isPrefix_firstLine (frame : Bytes) : firstLine frame <+: frame := by
  have cut : frame.takeWhile (· != 0x0A) <+: frame := List.takeWhile_prefix _
  rw [firstLine]
  split
  · exact (List.dropLast_prefix _).trans cut
  · exact cut

/-- A line has no delimiter that its bytes do not have. -/
theorem HoldsLine.clear {body : Bytes} {line : String} (holds : HoldsLine body line)
    (clear : ¬ delimiter <:+: body) : ¬ HoldsDelimiter line := by
  intro occurs
  rw [← (commandLine_eq_ok_iff.mp holds.read).2, holdsDelimiter_decodeLossy_iff] at occurs
  exact clear (occurs.trans (isPrefix_firstLine body).isInfix)

theorem command?_eq_some_iff {request : Except Error Dispatch} {command : Command} :
    command? request = .ok (some command) ↔
      ∃ line, request = .ok (.command line) ∧ Command.parse line = .ok command := by
  rcases request with error | (line | payload | _ | _)
  · simp [command?]
  · cases parsed : Command.parse line <;> simp [command?, parsed, Except.map]
  · simp [command?]
  · simp [command?]
  · simp [command?]

end Request

namespace Dispatcher

variable {dispatcher : Dispatcher} {frame : Bytes} {line : String}

/-- What is carried into a command is a part of its marker, so that no delimiter comes of it. -/
theorem clear_of_dispatch (short : dispatcher.carried.length < 3) (clear : ¬ delimiter <:+: frame)
    (dispatched : (dispatcher.dispatch frame).1 = .ok (.command line)) :
    ¬ delimiter <:+: dispatcher.carried ++ frame := by
  have marked := (holdsLine_of_dispatch dispatched).marked
  have inMarker : dispatcher.carried <+: commandMarker :=
    List.prefix_of_prefix_length_le (List.prefix_append _ _) marked (Nat.le_of_lt short)
  have foreign : (0x3C : UInt8) ∉ dispatcher.carried := fun member =>
    absurd (inMarker.subset member) (by decide)
  exact fun occurs => clear (infix_of_append foreign occurs)

theorem holdsLine_of_mem_dispatchAll {frames : List Bytes} (short : dispatcher.carried.length < 3)
    (clear : ∀ frame ∈ frames, ¬ delimiter <:+: frame)
    (member : .ok (.command line) ∈ dispatcher.dispatchAll frames) :
    ∃ body, HoldsLine body line ∧ ¬ delimiter <:+: body := by
  induction frames generalizing dispatcher with
  | nil => cases member
  | cons frame frames ih =>
    rcases List.mem_cons.mp member with first | later
    · have clearFirst := clear frame (List.mem_cons_self ..)
      exact ⟨_, holdsLine_of_dispatch first.symm, clear_of_dispatch short clearFirst first.symm⟩
    · exact ih (carried_dispatch ..) (fun other inRest => clear other (List.mem_cons_of_mem _ inRest)) later

end Dispatcher

namespace Request

variable {limit : Nat} {reads : List Bytes} {command : Command}

/-- Whatever arrives, the commands that are read of it are regular. -/
theorem isRegular_of_mem_readings (member : .ok (some command) ∈ readings limit reads) :
    command.IsRegular := by
  rcases List.mem_append.mp member with dispatched | failed
  · obtain ⟨request, inRequests, asks⟩ := List.mem_map.mp dispatched
    obtain ⟨line, rfl, parsed⟩ := command?_eq_some_iff.mp asks
    have clear := (FrameDecoder.searched_new limit).receive_clear reads
    have short : Dispatcher.new.carried.length < 3 := by decide
    obtain ⟨body, holds, clearBody⟩ := Dispatcher.holdsLine_of_mem_dispatchAll short clear inRequests
    exact Command.isRegular_of_parse parsed (unbroken_commandLine holds.read) (holds.clear clearBody)
  · obtain ⟨error, _, impossible⟩ := List.mem_map.mp failed
    cases impossible

/-- The frames of a request that the limit admits are decoded to the last. -/
theorem receive_of_admitted {body : Bytes} (division : reads.flatten = body ++ delimiter)
    (admitted : ∀ frame ∈ (Frame.cut reads.flatten).1, frame.length ≤ limit) :
    ((FrameDecoder.new limit).receive reads).frames = (Frame.cut reads.flatten).1 ∧
      ((FrameDecoder.new limit).receive reads).error = none := by
  have noTail : (Frame.cut reads.flatten).2 = [] := by
    rw [division, Frame.cut_append_delimiter]
  have fit : Frame.Fit limit (Frame.cut reads.flatten) := by
    refine ⟨admitted, ?_⟩
    rw [noTail]
    exact Nat.zero_le _
  have fresh : Frame.splitFirst? [] = none := by decide
  obtain ⟨after, received, -⟩ := (FrameDecoder.searched_new limit).receive_fit fresh reads fit
  rw [received]
  exact ⟨rfl, rfl⟩

/-- A request that holds no further delimiter is read as the one frame that it is. -/
theorem readings_of_clear {text : String} (clear : ¬ delimiter <:+: Utf8.encode text)
    (division : reads.flatten = ofCommand text)
    (admitted : ∀ frame ∈ (Frame.cut reads.flatten).1, frame.length ≤ limit) :
    readings limit reads = [command? (Dispatcher.new.dispatch (Utf8.encode text)).1] := by
  obtain ⟨frames, error⟩ := receive_of_admitted division admitted
  have single : (Frame.cut reads.flatten).1 = [Utf8.encode text] := by
    rw [division, ofCommand, Frame.cut_append_delimiter, Frame.cut_of_clear clear]
    rfl
  simp only [readings, frames, error, single]
  rfl

/-- A command that is read of its own text keeps to the limit of a line. -/
theorem length_le_of_read (regular : command.IsRegular)
    (read : command? (Dispatcher.new.dispatch (Utf8.encode command.text)).1 = .ok (some command)) :
    (Utf8.encode command.text).length ≤ commandLineLimit := by
  obtain ⟨line, dispatched, -⟩ := command?_eq_some_iff.mp read
  have short := (commandLine_eq_ok_iff.mp (Dispatcher.holdsLine_of_dispatch dispatched).read).1
  have whole : Dispatcher.new.carried ++ Utf8.encode command.text = Utf8.encode command.text := rfl
  rwa [whole, regular.oneLine.firstLine_encode] at short

end Request

/-- A command is read of its own request, however that is divided into reads, exactly if it is faithful.
One that is not is not even read besides something else. -/
theorem Command.readings_eq_iff (command : Command) (limit : Nat) (reads : List Bytes)
    (division : reads.flatten = ofCommand command.text)
    (admitted : ∀ frame ∈ (Frame.cut reads.flatten).1, frame.length ≤ limit) :
    (readings limit reads = [.ok (some command)] ↔ command.IsFaithful) ∧
      (.ok (some command) ∈ readings limit reads ↔ command.IsFaithful) := by
  have necessary (member : .ok (some command) ∈ readings limit reads) : command.IsFaithful := by
    have regular := isRegular_of_mem_readings member
    rw [readings_of_clear regular.clear division admitted] at member
    exact isFaithful_iff.mpr ⟨regular, length_le_of_read regular (List.mem_singleton.mp member).symm⟩
  have sufficient (faithful : command.IsFaithful) : readings limit reads = [.ok (some command)] := by
    obtain ⟨regular, short⟩ := isFaithful_iff.mp faithful
    have read : command? (Dispatcher.new.dispatch (Utf8.encode command.text)).1 = .ok (some command) := by
      rw [Dispatcher.dispatch_line command.marked_text regular.oneLine short]
      exact command?_eq_some_iff.mpr ⟨_, rfl, regular.parse_text⟩
    rw [readings_of_clear regular.clear division admitted, read]
  constructor
  · exact ⟨fun single => necessary (by rw [single]; exact List.mem_singleton_self _), sufficient⟩
  · exact ⟨necessary, fun faithful => by rw [sufficient faithful]; exact List.mem_singleton_self _⟩

/-- An ID may hold blanks, but not end in one. -/
theorem Command.readings_eq_iff_blanks :
    let reads := [Utf8.encode "CMD undep", Utf8.encode "loy a bc<<", Utf8.encode "EOF"]
    let padded := [Utf8.encode "CMD undep", Utf8.encode "loy a b <<", Utf8.encode "EOF"]
    reads.flatten = ofCommand (undeploy "a bc").text ∧ padded.flatten = ofCommand (undeploy "a b ").text ∧
      (∀ frame ∈ (Frame.cut reads.flatten).1 ++ (Frame.cut padded.flatten).1, frame.length ≤ 17) ∧
      readings 17 reads = [.ok (some (.undeploy "a bc"))] ∧
      .ok (some (.undeploy "a b ")) ∉ readings 17 padded := by
  intro reads padded
  have division : reads.flatten = ofCommand (undeploy "a bc").text := by decide +kernel
  have paddedDivision : padded.flatten = ofCommand (undeploy "a b ").text := by decide +kernel
  have admitted : ∀ frame ∈ (Frame.cut reads.flatten).1 ++ (Frame.cut padded.flatten).1,
      frame.length ≤ 17 := by decide +kernel
  have faithful := (readings_eq_iff (.undeploy "a bc") 17 reads division fun frame member =>
    admitted frame (List.mem_append_left _ member)).1
  have unfaithful := (readings_eq_iff (.undeploy "a b ") 17 padded paddedDivision fun frame member =>
    admitted frame (List.mem_append_right _ member)).2
  exact ⟨division, paddedDivision, admitted, faithful.mpr (by decide +kernel),
    mt unfaithful.mp (by decide +kernel)⟩

end TestDaemon
