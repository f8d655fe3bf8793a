import TestDaemon.Proofs.Framing

/-! # Frames past the limit

A decoder may be fed and asked for frames in any order (`FrameDecoder.answer`). It refuses what its buffer
begins with only where no bytes to come can make a frame within the limit of it, so that a refusal is final
(`Blocked`) and no short frame is lost by the way in which a stream is divided into reads: what comes of any
reads is the part of the stream before its first frame past the limit.
-/

namespace TestDaemon

open Request TestDaemon.Frame

/-- What is asked of a decoder: to take bytes, or to decode while the stream is open or at its end. -/
inductive DecoderCall where
  | feed (bytes : Bytes)
  | next (ended : Bool)
  deriving DecidableEq, Repr

/-- The bytes that calls add to the buffer. -/
def DecoderCall.fed : List DecoderCall → Bytes
  | [] => []
  | feed bytes :: calls => bytes ++ fed calls
  | next _ :: calls => fed calls

namespace FrameDecoder

variable {decoder after : FrameDecoder}

/-- Answer calls in order: what each decoding gives, and the decoder behind all of them. -/
def answer (decoder : FrameDecoder) :
    List DecoderCall → List (Except Error (Option Bytes)) × FrameDecoder
  | [] => ([], decoder)
  | .feed bytes :: calls => (decoder.feed bytes).answer calls
  | .next ended :: calls =>
    let (result, after) := decoder.next ended
    let (results, last) := after.answer calls
    (result :: results, last)

/-! ## Decoding at the end of the stream -/

theorem next_eq_error_iff {ended : Bool} {error : Error} :
    decoder.next ended = (.error error, after) ↔ decoder.decode = (.error error, after) := by
  cases ended with
  | false => rfl
  | true =>
    simp only [next, if_true, decodeEnd]
    rcases decoder.decode with ⟨_ | (_ | frame), other⟩ <;> simp

theorem next_eq_some_iff {ended : Bool} {frame : Bytes} :
    decoder.next ended = (.ok (some frame), after) ↔ decoder.decode = (.ok (some frame), after) := by
  cases ended with
  | false => rfl
  | true =>
    simp only [next, if_true, decodeEnd]
    rcases decoder.decode with ⟨_ | (_ | frame), other⟩ <;> simp

/-- The end of the stream leaves nothing behind a decoding that gives nothing. -/
theorem next_of_none {ended : Bool} (decoded : decoder.decode = (.ok none, after)) :
    decoder.next ended =
      (.ok none, if ended then { after with searched := 0, buffer := [] } else after) := by
  cases ended <;> simp [next, decodeEnd, decoded]

theorem Searched.next (searched : decoder.Searched) (ended : Bool) :
    (decoder.next ended).2.Searched ∧ (decoder.next ended).2.limit = decoder.limit := by
  cases decoded : decoder.decode with
  | mk result after =>
    rcases result with error | _ | frame
    · obtain ⟨_, _, limit, later, _⟩ := searched.of_error decoded
      rw [next_eq_error_iff.mpr decoded]
      exact ⟨later, limit⟩
    · obtain ⟨_, _, _, limit, later⟩ := searched.of_none decoded
      rw [next_of_none decoded]
      cases ended
      · exact ⟨later, limit⟩
      · exact ⟨searched_of_zero rfl, limit⟩
    · obtain ⟨_, _, limit, later⟩ := searched.of_frame decoded
      rw [next_eq_some_iff.mpr decoded]
      exact ⟨later, limit⟩

/-- Whatever has been asked of a decoder, what it has searched holds no delimiter. -/
theorem Searched.answer (searched : decoder.Searched) (calls : List DecoderCall) :
    (decoder.answer calls).2.Searched ∧ (decoder.answer calls).2.limit = decoder.limit := by
  induction calls generalizing decoder with
  | nil => exact ⟨searched, rfl⟩
  | cons call calls ih =>
    cases call with
    | feed bytes => exact ih (searched.feed bytes)
    | next ended =>
      obtain ⟨later, limit⟩ := searched.next ended
      obtain ⟨last, same⟩ := ih later
      exact ⟨last, same.trans limit⟩

/-! ## A refusal is final -/

/-- The buffer begins with a frame past the limit, whatever may still come. -/
structure Blocked (decoder : FrameDecoder) : Prop where
  searched : decoder.Searched
  overlong : ∀ later, Overlong decoder.limit (cut (decoder.buffer ++ later))

theorem Searched.blocked {error : Error} (searched : decoder.Searched)
    (decoded : decoder.decode = (.error error, after)) : after.Blocked := by
  obtain ⟨_, buffer, limit, later, overlong⟩ := searched.of_error decoded
  exact ⟨later, by rwa [buffer, limit]⟩

theorem Blocked.feed (blocked : decoder.Blocked) (bytes : Bytes) : (decoder.feed bytes).Blocked := by
  refine ⟨blocked.searched.feed bytes, fun later => ?_⟩
  simpa only [FrameDecoder.feed, List.append_assoc] using blocked.overlong (bytes ++ later)

theorem Blocked.decode (blocked : decoder.Blocked) :
    ∃ after, decoder.decode = (.error (.frameTooLong decoder.limit), after) ∧
      after.buffer = decoder.buffer ∧ after.limit = decoder.limit ∧ after.Blocked := by
  have overlong := blocked.overlong []
  rw [List.append_nil] at overlong
  cases decoded : decoder.decode with
  | mk result after =>
    rcases result with error | _ | frame
    · obtain ⟨rfl, buffer, limit, _⟩ := blocked.searched.of_error decoded
      exact ⟨after, rfl, buffer, limit, blocked.searched.blocked decoded⟩
    · obtain ⟨split, short, _⟩ := blocked.searched.of_none decoded
      rw [cut_of_none split] at overlong
      exact absurd overlong (Nat.not_lt.mpr short)
    · obtain ⟨split, short, _⟩ := blocked.searched.of_frame decoded
      rw [cut_of_some split] at overlong
      exact absurd overlong (Nat.not_lt.mpr short)

theorem Blocked.answer (blocked : decoder.Blocked) (calls : List DecoderCall) :
    (∀ result ∈ (decoder.answer calls).1, result = .error (.frameTooLong decoder.limit)) ∧
      (decoder.answer calls).2.buffer = decoder.buffer ++ DecoderCall.fed calls := by
  induction calls generalizing decoder with
  | nil => exact ⟨by simp [FrameDecoder.answer], by simp [FrameDecoder.answer, DecoderCall.fed]⟩
  | cons call calls ih =>
    cases call with
    | feed bytes =>
      obtain ⟨refused, buffer⟩ := ih (blocked.feed bytes)
      exact ⟨refused, by rw [FrameDecoder.answer, buffer]; exact List.append_assoc ..⟩
    | next ended =>
      obtain ⟨after, decoded, same, limit, later⟩ := blocked.decode
      obtain ⟨refused, buffer⟩ := ih later
      simp only [FrameDecoder.answer, next_eq_error_iff.mpr decoded, DecoderCall.fed]
      rw [limit] at refused
      rw [same] at buffer
      refine ⟨fun result member => ?_, buffer⟩
      rcases List.mem_cons.mp member with rfl | member
      · rfl
      · exact refused result member

/-! ## No short frame is refused -/

/-- What is made of a stream: short frames, and then its tail, or the refusal of what follows them. -/
structure Gives (limit : Nat) (stream : Bytes) (received : Received) : Prop where
  short : ∀ frame ∈ received.frames, frame.length ≤ limit
  parts : ∃ rest, cut stream = (received.frames ++ rest.1, rest.2) ∧
    match received.error with
    | none => rest.1 = [] ∧ rest.2.length ≤ limit + delimiter.length
    | some error => error = .frameTooLong limit ∧ Overlong limit rest

/-- Frames that are taken before belong to what the whole stream gives. -/
theorem Gives.behind {limit : Nat} {stream later : Bytes} {frames : List Bytes} {received : Received}
    (gives : Gives limit later received) (short : ∀ frame ∈ frames, frame.length ≤ limit)
    (divided : cut stream = (frames ++ (cut later).1, (cut later).2)) :
    Gives limit stream { received with frames := frames ++ received.frames } := by
  obtain ⟨rest, parts, ending⟩ := gives.parts
  refine ⟨fun frame member => ?_, rest, ?_, ending⟩
  · rcases List.mem_append.mp member with first | second
    · exact short frame first
    · exact gives.short frame second
  · rw [divided, parts, List.append_assoc]

theorem Gives.frames_eq {limit : Nat} {stream : Bytes} {received : Received}
    (gives : Gives limit stream received) :
    received.frames = (cut stream).1.takeWhile fun frame => frame.length ≤ limit := by
  obtain ⟨rest, parts, ending⟩ := gives.parts
  have stops : rest.1.takeWhile (fun frame => frame.length ≤ limit) = [] := by
    cases error : received.error with
    | none =>
      simp only [error] at ending
      rw [ending.1]
      rfl
    | some told =>
      simp only [error] at ending
      rcases rest with ⟨_ | ⟨frame, frames⟩, tail⟩
      · rfl
      · have long : limit < frame.length := ending.2
        exact List.takeWhile_cons_of_neg (by simpa using long)
  rw [parts, List.takeWhile_append_of_pos (by simpa using gives.short), stops, List.append_nil]

theorem Gives.error_none_iff {limit : Nat} {stream : Bytes} {received : Received}
    (gives : Gives limit stream received) : received.error = none ↔ Fit limit (cut stream) := by
  obtain ⟨rest, parts, ending⟩ := gives.parts
  cases error : received.error with
  | none =>
    simp only [error] at ending
    rw [parts, ending.1, List.append_nil]
    exact ⟨fun _ => ⟨gives.short, ending.2⟩, fun _ => rfl⟩
  | some told =>
    simp only [error] at ending
    refine ⟨fun missing => (nomatch missing), fun fit => ?_⟩
    rw [parts] at fit
    have later : Fit limit rest := ⟨fun frame member => fit.1 frame (List.mem_append_right _ member), fit.2⟩
    exact absurd ending.2 later.not_overlong

theorem Gives.error_eq {limit : Nat} {stream : Bytes} {received : Received}
    (gives : Gives limit stream received) {error : Error} (refused : received.error = some error) :
    error = .frameTooLong limit := by
  obtain ⟨rest, _, ending⟩ := gives.parts
  simp only [refused] at ending
  exact ending.1

/-- A buffer without a delimiter gives nothing, and is kept. -/
theorem gives_nothing (split : splitFirst? decoder.buffer = none)
    (short : decoder.buffer.length ≤ decoder.limit + delimiter.length) :
    Gives decoder.limit decoder.buffer ⟨[], none, decoder⟩ :=
  ⟨by simp, ([], decoder.buffer), cut_of_none split, rfl, short⟩

/-- What is drained from a buffer: all of its frames, or those before one that is past the limit whatever
follows. -/
structure Drained (decoder : FrameDecoder) (received : Received) : Prop where
  searched : received.decoder.Searched
  limit : received.decoder.limit = decoder.limit
  short : ∀ frame ∈ received.frames, frame.length ≤ decoder.limit
  complete : received.error = none →
    cut decoder.buffer = (received.frames, received.decoder.buffer) ∧
      Gives decoder.limit received.decoder.buffer ⟨[], none, received.decoder⟩
  refused : received.error ≠ none → ∀ later, Gives decoder.limit (decoder.buffer ++ later) received

theorem Searched.drained (searched : decoder.Searched) : decoder.Drained decoder.drain := by
  induction decoder using drain.induct with
  | case1 decoder error after decoded =>
    obtain ⟨rfl, _, limit, later, overlong⟩ := searched.of_error decoded
    rw [drain_eq, decoded]
    exact ⟨later, limit, by simp, by simp, fun _ more => ⟨by simp, _, rfl, rfl, overlong more⟩⟩
  | case2 decoder after decoded =>
    obtain ⟨split, short, buffer, limit, later⟩ := searched.of_none decoded
    rw [← buffer] at split
    rw [← buffer, ← limit] at short
    rw [drain_eq, decoded]
    refine ⟨later, limit, by simp, fun _ => ⟨?_, ?_⟩, by simp⟩
    · rw [← buffer]
      exact cut_of_none split
    · rw [← limit]
      exact gives_nothing split short
  | case3 decoder frame after decoded ih =>
    obtain ⟨split, short, limit, next⟩ := searched.of_frame decoded
    have rest := ih next
    have complete := rest.complete
    have refused := rest.refused
    rw [limit] at complete refused
    have first : ∀ other ∈ [frame], other.length ≤ decoder.limit := by simpa using short
    rw [drain_eq, decoded]
    refine ⟨rest.searched, rest.limit.trans limit, ?_, fun error => ?_, fun error more => ?_⟩
    · intro other member
      rcases List.mem_cons.mp member with rfl | member
      · exact short
      · exact limit ▸ rest.short other member
    · obtain ⟨parts, ending⟩ := complete error
      exact ⟨by rw [cut_of_some split, parts], ending⟩
    · exact (refused error more).behind first (cut_append_of_some split more)

/-- Wherever reads fall, they give the frames of their stream up to one past the limit. Without any read
the buffer must have been drained. -/
theorem Searched.receive_gives (searched : decoder.Searched) (reads : List Bytes)
    (ready : reads = [] → Gives decoder.limit decoder.buffer ⟨[], none, decoder⟩) :
    Gives decoder.limit (decoder.buffer ++ reads.flatten) (decoder.receive reads) := by
  induction reads generalizing decoder with
  | nil =>
    rw [List.flatten_nil, List.append_nil]
    exact ready rfl
  | cons read reads ih =>
    have first := (searched.feed read).drained
    rw [List.flatten_cons, ← List.append_assoc, receive]
    split
    · next told => exact first.refused (by simp [told]) reads.flatten
    · next told =>
      obtain ⟨parts, ending⟩ := first.complete told
      rw [← first.limit] at ending
      have rest := ih first.searched fun _ => ending
      rw [first.limit] at rest
      refine rest.behind first.short ?_
      rw [cut_append, show cut (decoder.buffer ++ read) = _ from parts]

/-! ## The limit -/

/-- How a decoder keeps to its limit. -/
structure KeepsLimit (limit : Nat) (decoder : FrameDecoder) : Prop where
  /-- A refusal takes nothing, and is repeated whatever is fed and asked for afterwards. -/
  final : ∀ ended error after, decoder.next ended = (.error error, after) →
    error = .frameTooLong limit ∧ after.buffer = decoder.buffer ∧
      ∀ calls, (∀ result ∈ (after.answer calls).1, result = .error (.frameTooLong limit)) ∧
        (after.answer calls).2.buffer = decoder.buffer ++ DecoderCall.fed calls
  /-- What is refused could not become a frame within the limit. -/
  due : ∀ ended error after, decoder.next ended = (.error error, after) →
    ∀ later frame rest, splitFirst? (decoder.buffer ++ later) = some (frame, rest) → limit < frame.length
  /-- A complete frame is given if it is within the limit, and only then. -/
  given : ∀ ended frame rest, splitFirst? decoder.buffer = some (frame, rest) →
    ((∃ after, decoder.next ended = (.ok (some frame), after) ∧ after.buffer = rest) ↔ frame.length ≤ limit)
  taken : ∀ ended frame after, decoder.next ended = (.ok (some frame), after) →
    splitFirst? decoder.buffer = some (frame, after.buffer) ∧ frame.length ≤ limit
  /-- Only so much is kept for a frame that is still to be completed. -/
  bounded : ∀ after, decoder.decode = (.ok none, after) →
    after.buffer.length ≤ limit + delimiter.length
  /-- However a stream is divided into reads, its frames are given up to the first one past the limit, and
  nothing is refused of a stream whose frames and tail are within it. -/
  divided : ∀ reads, reads ≠ [] →
    (decoder.receive reads).frames =
        (cut (decoder.buffer ++ reads.flatten)).1.takeWhile (fun frame => frame.length ≤ limit) ∧
      ((decoder.receive reads).error = none ↔ Fit limit (cut (decoder.buffer ++ reads.flatten))) ∧
      ∀ error, (decoder.receive reads).error = some error → error = .frameTooLong limit

theorem Searched.keepsLimit (searched : decoder.Searched) : KeepsLimit decoder.limit decoder where
  final ended error after decoded := by
    have decoded := next_eq_error_iff.mp decoded
    obtain ⟨rfl, buffer, limit, _⟩ := searched.of_error decoded
    have blocked := (searched.blocked decoded).answer
    rw [limit, buffer] at blocked
    exact ⟨rfl, buffer, blocked⟩
  due ended error after decoded later frame rest split := by
    obtain ⟨_, _, _, _, overlong⟩ := searched.of_error (next_eq_error_iff.mp decoded)
    have long := overlong later
    rwa [cut_of_some split] at long
  given ended frame rest split := by
    constructor
    · rintro ⟨after, decoded, _⟩
      exact (searched.of_frame (next_eq_some_iff.mp decoded)).2.1
    · intro short
      refine ⟨{ decoder with searched := 0, buffer := rest }, next_eq_some_iff.mpr ?_, rfl⟩
      rw [searched.decode_eq, split]
      exact if_neg (Nat.not_lt.mpr short)
  taken ended frame after decoded := by
    obtain ⟨split, short, _⟩ := searched.of_frame (next_eq_some_iff.mp decoded)
    exact ⟨split, short⟩
  bounded after decoded := by
    obtain ⟨_, short, buffer, _⟩ := searched.of_none decoded
    rwa [buffer]
  divided reads some := by
    have gives := searched.receive_gives reads fun none => absurd none some
    exact ⟨gives.frames_eq, gives.error_none_iff, fun error => gives.error_eq⟩

/-- Whatever has been asked of a decoder, it keeps to its limit. -/
theorem keepsLimit_answer (limit : Nat) (calls : List DecoderCall) :
    KeepsLimit limit ((new limit).answer calls).2 := by
  obtain ⟨searched, same⟩ := (searched_new limit).answer calls
  have keeps := searched.keepsLimit
  rwa [same] at keeps

/-- A buffer of three bytes and an unfinished delimiter is within a limit of three, and one of nine bytes is
not, whatever follows. -/
example : ((new 3).answer [.feed [0x61, 0x62, 0x63, 0x3C, 0x3C, 0x45, 0x4F], .next false, .feed [0x46], .next false,
      .feed (List.replicate 9 0x61), .next false, .feed delimiter, .next true]).1 =
    [.ok none, .ok (some [0x61, 0x62, 0x63]), .error (.frameTooLong 3), .error (.frameTooLong 3)] := by
  decide +kernel

end FrameDecoder

end TestDaemon
