import TestDaemon.Proofs.JsonText
import TestDaemon.Proofs.Timestamp
import TestDaemon.TestResult.Decoder

/-! # Reading written results

A written result is an object without blanks. Its members come in one order, each once, and each value is
a quoted text that its reader takes whole. So a result is read back as it was, and the reader stops right
behind its closing brace.
-/

namespace TestDaemon

open Json

namespace Json.Cursor

variable {offset : Nat} {octet : UInt8} {rest : Bytes}

@[simp] theorem peek_cons : peek ⟨offset, octet :: rest⟩ = some octet := rfl

@[simp] theorem next_cons : next ⟨offset, octet :: rest⟩ = ⟨offset + 1, rest⟩ := rfl

theorem skipBlanks_cons (visible : isBlank octet = false) :
    skipBlanks ⟨offset, octet :: rest⟩ = ⟨offset, octet :: rest⟩ := by
  simp [skipBlanks, skipBlanksFrom, visible]

end Json.Cursor

/-! A quoted text begins with its quote, which no reader passes over. -/

namespace Json.Cursor

variable (text : List Char) (offset : Nat) (rest : Bytes)

theorem peek_quote : peek ⟨offset, Utf8.encodeChars (quoteChars text) ++ rest⟩ = some 0x22 := rfl

theorem skipBlanks_quote :
    skipBlanks ⟨offset, Utf8.encodeChars (quoteChars text) ++ rest⟩ =
      ⟨offset, Utf8.encodeChars (quoteChars text) ++ rest⟩ :=
  skipBlanks_cons (by decide)

end Json.Cursor

namespace TestResult

/-! ## Values -/

theorem takes_text (expected text : String) :
    Takes (readText expected) (Utf8.encodeChars (quoteChars text.toList)) text := by
  intro offset rest
  simp only [readText, Cursor.skipBlanks_quote, Cursor.peek_quote]
  exact takes_quote text offset rest

theorem takes_status (status : TestStatus) :
    Takes readStatus (Utf8.encodeChars (quoteChars status.name.toList)) status := by
  intro offset rest
  have text := takes_text "variant identifier" status.name offset rest
  have named : statusOf? status.name = some status := by cases status <;> rfl
  simp only [readStatus, Cursor.skipBlanks_quote, Cursor.peek_quote, readStatusName, text, bind,
    Except.bind, named]
  rfl

theorem takes_message (text : String) :
    Takes readMessage (Utf8.encodeChars (quoteChars text.toList)) (some text) := by
  intro offset rest
  have quoted := takes_text "a string" text offset rest
  simp only [readMessage, Cursor.skipBlanks_quote, Cursor.peek_quote, quoted]
  rfl

theorem takes_timestamp (timestamp : Timestamp) :
    Takes readTimestamp (Utf8.encodeChars (quoteChars timestamp.toChars)) timestamp := by
  intro offset rest
  have text := takes_text "an RFC 3339 formatted date and time string"
    (String.ofList timestamp.toChars) offset rest
  rw [String.toList_ofList] at text
  simp only [readTimestamp, text, bind, Except.bind, timestamp.parse_toChars]
  rfl

/-! ## Members -/

theorem readColon_here (offset : Nat) (rest : Bytes) :
    readColon ⟨offset, 0x3A :: rest⟩ = .ok ⟨offset + 1, rest⟩ := rfl

/-- A member whose value is taken whole. -/
theorem readOnce_takes {α : Type} {name : String} {read : Cursor → Except Fault (α × Cursor)}
    {written : Bytes} {value : α} (takes : Takes read written value) (offset : Nat) (rest : Bytes) :
    readOnce name none read ⟨offset, 0x3A :: (written ++ rest)⟩ =
      .ok (value, ⟨offset + 1 + written.length, rest⟩) := by
  simp only [readOnce, readColon_here, bind, Except.bind, takes (offset + 1) rest]
  rfl

/-- What a member adds to the ones before it. -/
def Adds (members : Members) (key : String) (written : Bytes) (next : Members) : Prop :=
  ∀ offset rest, readMember members key ⟨offset, 0x3A :: (written ++ rest)⟩ =
    .ok (next, ⟨offset + 1 + written.length, rest⟩)

theorem adds_status (status : TestStatus) :
    Adds .empty "status" (Utf8.encodeChars (quoteChars status.name.toList))
      { Members.empty with status := some status } := by
  intro offset rest
  simp only [readMember, Members.empty, readOnce_takes (takes_status status), bind, Except.bind]
  rfl

theorem adds_message {members : Members} (absent : members.message = none) (text : String) :
    Adds members "message" (Utf8.encodeChars (quoteChars text.toList))
      { members with message := some (some text) } := by
  intro offset rest
  simp only [readMember, absent, readOnce_takes (takes_message text), bind, Except.bind]
  rfl

theorem adds_startedAt {members : Members} (absent : members.startedAt = none) (startedAt : Timestamp) :
    Adds members "started_at" (Utf8.encodeChars (quoteChars startedAt.toChars))
      { members with startedAt := some startedAt } := by
  intro offset rest
  simp only [readMember, absent, readOnce_takes (takes_timestamp startedAt), bind, Except.bind]
  rfl

theorem adds_finishedAt {members : Members} (absent : members.finishedAt = none)
    (finishedAt : Timestamp) :
    Adds members "finished_at" (Utf8.encodeChars (quoteChars finishedAt.toChars))
      { members with finishedAt := some finishedAt } := by
  intro offset rest
  simp only [readMember, absent, readOnce_takes (takes_timestamp finishedAt), bind, Except.bind]
  rfl

/-! ## Objects -/

/-- A member on the wire. -/
def memberBytes (key : String) (written : Bytes) : Bytes :=
  Utf8.encodeChars (quoteChars key.toList) ++ 0x3A :: written

/-- What stands in front of a member: a comma, unless it is the first one. -/
def separator (first : Bool) : Bytes := if first then [] else [0x2C]

theorem readMembers_member {members next : Members} {key : String} {written : Bytes}
    (adds : Adds members key written next) (first : Bool) (bound offset : Nat) (rest : Bytes) :
    readMembers (bound + 1) first members
        ⟨offset, separator first ++ (memberBytes key written ++ rest)⟩ =
      readMembers bound false next
        ⟨offset + (separator first ++ memberBytes key written).length, rest⟩ := by
  obtain ⟨start, begins⟩ : ∃ start, start = offset + (separator first).length := ⟨_, rfl⟩
  have quoted := takes_quote key start (0x3A :: (written ++ rest))
  have value := adds (start + (Utf8.encodeChars (quoteChars key.toList)).length) rest
  have length : offset + (separator first ++ memberBytes key written).length =
      start + (Utf8.encodeChars (quoteChars key.toList)).length + 1 + written.length := by
    simp only [begins, memberBytes, List.length_append, List.length_cons]
    omega
  have comma : Cursor.isBlank 0x2C = false := by decide
  rw [length, memberBytes, List.append_assoc, List.cons_append]
  cases first with
  | true =>
    obtain rfl : start = offset := begins
    simp only [separator, if_true, List.nil_append, readMembers, Cursor.skipBlanks_quote,
      Cursor.peek_quote, bind, Except.bind, quoted, Refusal.ofFault, Except.mapError, value]
    rfl
  | false =>
    obtain rfl : start = offset + 1 := begins
    simp only [separator, Bool.false_eq_true, if_false, List.cons_append, List.nil_append, readMembers,
      Cursor.skipBlanks_cons comma, Cursor.peek_cons, Cursor.next_cons, bind, Except.bind]
    simp only [Cursor.skipBlanks_quote, Cursor.peek_quote, quoted, Refusal.ofFault, Except.mapError,
      value]
    rfl

theorem readMembers_first {members next : Members} {key : String} {written : Bytes}
    (adds : Adds members key written next) (bound offset : Nat) (rest : Bytes) :
    readMembers (bound + 1) true members ⟨offset, memberBytes key written ++ rest⟩ =
      readMembers bound false next ⟨offset + (memberBytes key written).length, rest⟩ :=
  readMembers_member adds true bound offset rest

theorem readMembers_next {members next : Members} {key : String} {written : Bytes}
    (adds : Adds members key written next) (bound offset : Nat) (rest : Bytes) :
    readMembers (bound + 1) false members ⟨offset, 0x2C :: (memberBytes key written ++ rest)⟩ =
      readMembers bound false next ⟨offset + (memberBytes key written).length + 1, rest⟩ :=
  readMembers_member adds false bound offset rest

/-- The closing brace makes a result of the members. -/
theorem readMembers_end {members : Members} {status : TestStatus} {startedAt finishedAt : Timestamp}
    (hasStatus : members.status = some status) (hasStart : members.startedAt = some startedAt)
    (hasFinish : members.finishedAt = some finishedAt) (bound offset : Nat) (rest : Bytes) :
    settle afterObject closeObject (readMembers (bound + 1) false members ⟨offset, 0x7D :: rest⟩) =
      .ok (⟨status, members.message.join, startedAt, finishedAt⟩, ⟨offset + 1, rest⟩) := by
  have visible : Cursor.isBlank 0x7D = false := by decide
  simp only [readMembers, Cursor.skipBlanks_cons visible, Cursor.peek_cons, Members.close, hasStatus,
    hasStart, hasFinish]
  rfl

/-! ## Results -/

theorem encodeChars_member (key : String) (value rest : List Char) :
    Utf8.encodeChars (memberChars key value ++ rest) =
      memberBytes key (Utf8.encodeChars value) ++ Utf8.encodeChars rest := by
  simp only [memberChars, memberBytes, Utf8.encodeChars_append, Utf8.encodeChars_cons, List.append_assoc]
  rfl

/-- A written result is read back, and what follows it is left. -/
theorem takes_encode (result : TestResult) : Takes read result.encode result := by
  intro offset rest
  obtain ⟨status, message, startedAt, finishedAt⟩ := result
  have brace : Cursor.isBlank 0x7B = false := by decide
  have comma (rest : List Char) : Utf8.encodeChars (',' :: rest) = 0x2C :: Utf8.encodeChars rest := rfl
  have opening (rest : List Char) :
      Utf8.encodeChars ('\x7b' :: rest) = 0x7B :: Utf8.encodeChars rest := rfl
  have closing : Utf8.encodeChars ['\x7d'] = [0x7D] := rfl
  cases message with
  | none =>
    simp only [encode, toChars, List.cons_append, List.append_assoc, List.append_nil, List.nil_append,
      opening, encodeChars_member, comma, closing, read, Cursor.skipBlanks_cons brace, Cursor.peek_cons,
      Cursor.next_cons]
    generalize bounded : (List.length _ + 1 : Nat) = bound
    obtain ⟨fuel, rfl⟩ : ∃ fuel, bound = fuel + 4 := ⟨bound - 4, by simp at bounded; omega⟩
    rw [readMembers_first (adds_status status), readMembers_next (adds_startedAt rfl startedAt),
      readMembers_next (adds_finishedAt rfl finishedAt), readMembers_end rfl rfl rfl]
    refine congrArg (fun offset => Except.ok (_, Cursor.mk offset rest)) ?_
    simp
    omega
  | some text =>
    simp only [encode, toChars, List.cons_append, List.append_assoc, List.nil_append, opening,
      encodeChars_member, comma, closing, read, Cursor.skipBlanks_cons brace, Cursor.peek_cons,
      Cursor.next_cons]
    generalize bounded : (List.length _ + 1 : Nat) = bound
    obtain ⟨fuel, rfl⟩ : ∃ fuel, bound = fuel + 5 := ⟨bound - 5, by simp at bounded; omega⟩
    rw [readMembers_first (adds_status status), readMembers_next (adds_message rfl text),
      readMembers_next (adds_startedAt rfl startedAt), readMembers_next (adds_finishedAt rfl finishedAt),
      readMembers_end rfl rfl rfl]
    refine congrArg (fun offset => Except.ok (_, Cursor.mk offset rest)) ?_
    simp
    omega

end TestResult

end TestDaemon
