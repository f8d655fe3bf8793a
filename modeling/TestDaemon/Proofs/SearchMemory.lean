import TestDaemon.Proofs.FrameLimit

/-! # What a decoder remembers of its search

Between its calls a decoder keeps how far it has searched, while its buffer is fed and emptied. This saves
work and changes nothing: what a decoding gives and leaves is a function of the limit and the buffer
(`Frame.taken`), so that two decoders with the same bytes under the same limit answer alike from then on,
whatever each of them has searched. One of them may as well be new.
-/

namespace TestDaemon

open Request

namespace Frame

/-- What comes of a buffer, its first frame, nothing or a refusal, and what is left of it. -/
def taken (limit : Nat) (buffer : Bytes) : Except Error (Option Bytes) × Bytes :=
  match splitFirst? buffer with
  | some (frame, rest) =>
    if limit < frame.length then (.error (.frameTooLong limit), buffer) else (.ok (some frame), rest)
  | none =>
    if limit + delimiter.length < buffer.length then (.error (.frameTooLong limit), buffer)
    else (.ok none, buffer)

variable {limit : Nat} {buffer : Bytes}

/-- A frame reaches up to the leftmost delimiter. -/
theorem taken_of_leftmost {position : Nat} (here : delimiter <+: buffer.drop position)
    (first : ∀ earlier < position, ¬ delimiter <+: buffer.drop earlier) :
    taken limit buffer =
      if limit < position then (.error (.frameTooLong limit), buffer)
      else (.ok (some (buffer.take position)), buffer.drop (position + delimiter.length)) := by
  have found : Bytes.find? delimiter buffer = some position := Bytes.find?_eq_some_iff.mpr ⟨here, first⟩
  have bound := (Bytes.findFrom?_bound found).2
  have length : (buffer.take position).length = position := by
    rw [List.length_take]
    omega
  simp only [taken, splitFirst?, found, Option.map_some, length]

theorem taken_of_clear (clear : ¬ delimiter <:+: buffer) :
    taken limit buffer =
      if limit + delimiter.length < buffer.length then (.error (.frameTooLong limit), buffer)
      else (.ok none, buffer) := by
  simp only [taken, splitFirst?_eq_none_iff.mpr clear]

end Frame

namespace FrameDecoder

variable {decoder first second : FrameDecoder}

theorem Searched.decode_taken (searched : decoder.Searched) :
    (decoder.decode.1, decoder.decode.2.buffer) = Frame.taken decoder.limit decoder.buffer := by
  rw [searched.decode_eq, Frame.taken]
  cases Frame.splitFirst? decoder.buffer with
  | none =>
    dsimp only
    split <;> rfl
  | some parts =>
    dsimp only
    split <;> rfl

/-- Two decoders that hold the same bytes under the same limit. What they have searched may differ. -/
structure Alike (first second : FrameDecoder) : Prop where
  firstSearched : first.Searched
  secondSearched : second.Searched
  limit : first.limit = second.limit
  buffer : first.buffer = second.buffer

/-- A decoder is like a new one that is fed with what it holds. -/
theorem Searched.alike_new (searched : decoder.Searched) :
    decoder.Alike ((new decoder.limit).feed decoder.buffer) :=
  ⟨searched, (searched_new _).feed _, rfl, rfl⟩

theorem Alike.feed (alike : first.Alike second) (bytes : Bytes) :
    (first.feed bytes).Alike (second.feed bytes) :=
  ⟨alike.firstSearched.feed bytes, alike.secondSearched.feed bytes, alike.limit,
    congrArg (· ++ bytes) alike.buffer⟩

theorem Alike.decode (alike : first.Alike second) :
    first.decode.1 = second.decode.1 ∧ first.decode.2.buffer = second.decode.2.buffer := by
  have same : (first.decode.1, first.decode.2.buffer) = (second.decode.1, second.decode.2.buffer) := by
    rw [alike.firstSearched.decode_taken, alike.secondSearched.decode_taken, alike.limit, alike.buffer]
  exact Prod.mk.inj same

/-- The end of the stream leaves nothing behind a decoding that gives nothing, and changes no other one. -/
theorem next_parts (decoder : FrameDecoder) (ended : Bool) :
    (decoder.next ended).1 = decoder.decode.1 ∧
      (decoder.next ended).2.buffer =
        if ended = true ∧ decoder.decode.1.toOption = some none then [] else decoder.decode.2.buffer := by
  cases decoded : decoder.decode with
  | mk result after =>
    rcases result with error | _ | frame
    · rw [next_eq_error_iff.mpr decoded]
      simp [Except.toOption]
    · rw [next_of_none decoded]
      cases ended <;> simp [Except.toOption]
    · rw [next_eq_some_iff.mpr decoded]
      simp [Except.toOption]

theorem Alike.next (alike : first.Alike second) (ended : Bool) :
    (first.next ended).1 = (second.next ended).1 ∧ (first.next ended).2.Alike (second.next ended).2 := by
  obtain ⟨result, buffer⟩ := alike.decode
  obtain ⟨firstSearched, firstLimit⟩ := alike.firstSearched.next ended
  obtain ⟨secondSearched, secondLimit⟩ := alike.secondSearched.next ended
  refine ⟨?_, firstSearched, secondSearched, ?_, ?_⟩
  · rw [(first.next_parts ended).1, (second.next_parts ended).1, result]
  · rw [firstLimit, secondLimit, alike.limit]
  · rw [(first.next_parts ended).2, (second.next_parts ended).2, result, buffer]

/-- Decoders that are alike stay so, and give the same, whatever is asked of both. -/
theorem Alike.answer (alike : first.Alike second) (calls : List DecoderCall) :
    (first.answer calls).1 = (second.answer calls).1 ∧
      (first.answer calls).2.Alike (second.answer calls).2 := by
  induction calls generalizing first second with
  | nil => exact ⟨rfl, alike⟩
  | cons call calls ih =>
    cases call with
    | feed bytes => exact ih (alike.feed bytes)
    | next ended =>
      obtain ⟨result, later⟩ := alike.next ended
      obtain ⟨results, last⟩ := ih later
      exact ⟨congrArg₂ List.cons result results, last⟩

/-- What a decoder remembers of its search is true of its buffer, and makes no difference. -/
structure RemembersRightly (limit : Nat) (decoder : FrameDecoder) : Prop where
  within : decoder.searched ≤ decoder.buffer.length
  clear : ¬ delimiter <:+: decoder.buffer.take decoder.searched
  /-- The next decoding gives and leaves what that of a new decoder does. -/
  asNew : decoder.decode.1 = ((new limit).feed decoder.buffer).decode.1 ∧
    decoder.decode.2.buffer = ((new limit).feed decoder.buffer).decode.2.buffer
  /-- So does everything that is asked from now on. -/
  onwards : ∀ calls, (decoder.answer calls).1 = (((new limit).feed decoder.buffer).answer calls).1 ∧
    (decoder.answer calls).2.buffer = (((new limit).feed decoder.buffer).answer calls).2.buffer
  /-- The buffer is split at its leftmost delimiter, if what stands before it is within the limit. -/
  leftmost : ∀ position, delimiter <+: decoder.buffer.drop position →
    (∀ earlier < position, ¬ delimiter <+: decoder.buffer.drop earlier) →
      (decoder.decode.1, decoder.decode.2.buffer) =
        if limit < position then (.error (.frameTooLong limit), decoder.buffer)
        else (.ok (some (decoder.buffer.take position)),
          decoder.buffer.drop (position + delimiter.length))
  /-- Without a delimiter it is kept as it is. -/
  unsplit : ¬ delimiter <:+: decoder.buffer →
    (decoder.decode.1, decoder.decode.2.buffer) =
      if limit + delimiter.length < decoder.buffer.length then
        (.error (.frameTooLong limit), decoder.buffer)
      else (.ok none, decoder.buffer)

theorem Searched.remembersRightly (searched : decoder.Searched) :
    RemembersRightly decoder.limit decoder where
  within := searched.within
  clear := searched.clear
  asNew := searched.alike_new.decode
  onwards calls := by
    obtain ⟨results, last⟩ := searched.alike_new.answer calls
    exact ⟨results, last.buffer⟩
  leftmost position here first := by
    rw [searched.decode_taken]
    exact Frame.taken_of_leftmost here first
  unsplit clear := by
    rw [searched.decode_taken]
    exact Frame.taken_of_clear clear

/-- Whatever a decoder has been fed and asked for, what it remembers of its search never changes a result. -/
theorem remembersRightly_answer (limit : Nat) (calls : List DecoderCall) :
    RemembersRightly limit ((new limit).answer calls).2 := by
  obtain ⟨searched, same⟩ := (searched_new limit).answer calls
  have remembers := searched.remembersRightly
  rwa [same] at remembers

/-- A delimiter that reaches over the end of the searched part is found. -/
example :
    let decoder := ((new 9).answer [.feed [0x61, 0x3C, 0x3C, 0x45], .next false]).2
    decoder.searched = 4 ∧ ((decoder.feed [0x4F, 0x46]).next false).1 = .ok (some [0x61]) := by
  decide +kernel

end FrameDecoder

end TestDaemon
