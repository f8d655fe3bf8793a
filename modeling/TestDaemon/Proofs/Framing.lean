import TestDaemon.Connection
import TestDaemon.Proofs.Delimiter

/-! # The decoder cuts a stream

A decoder may have searched a part of its buffer before (`FrameDecoder.Searched`). It gives what a
decoder without that memory gives: the frame before the first delimiter. An early refusal is never
premature, because whatever follows such a buffer, its first frame or its tail stays too long. So the
frames that a decoder gives over all reads are those of the whole stream, wherever the reads fall.
-/

namespace TestDaemon

open Request

namespace Frame

/-- Whether the first part of a divided stream is past the limit: its first frame, or, where there is
none, a tail that even an unfinished delimiter does not excuse. -/
def Overlong (limit : Nat) : List Bytes × Bytes → Prop
  | ([], tail) => limit + delimiter.length < tail.length
  | (frame :: _, _) => limit < frame.length

/-- Whether all parts of a divided stream keep to the limit. -/
def Fit (limit : Nat) (parts : List Bytes × Bytes) : Prop :=
  (∀ frame ∈ parts.1, frame.length ≤ limit) ∧ parts.2.length ≤ limit + delimiter.length

theorem Fit.not_overlong {limit : Nat} {parts : List Bytes × Bytes} (fit : Fit limit parts) :
    ¬ Overlong limit parts := by
  obtain ⟨frames, tail⟩ := parts
  cases frames with
  | nil => exact Nat.not_lt.mpr fit.2
  | cons frame frames => exact Nat.not_lt.mpr (fit.1 frame (List.mem_cons_self ..))

theorem overlong_of_frame {limit : Nat} {buffer frame rest : Bytes}
    (split : splitFirst? buffer = some (frame, rest)) (long : limit < frame.length) (later : Bytes) :
    Overlong limit (cut (buffer ++ later)) := by
  rw [cut_append_of_some split]
  exact long

/-- A delimiter that is still to come can only end a frame that is too long already. -/
theorem overlong_of_tail {limit : Nat} {buffer : Bytes} (split : splitFirst? buffer = none)
    (long : limit + delimiter.length < buffer.length) (later : Bytes) :
    Overlong limit (cut (buffer ++ later)) := by
  cases found : splitFirst? (buffer ++ later) with
  | none =>
    rw [cut_of_none found]
    simp only [Overlong, List.length_append]
    omega
  | some parts =>
    obtain ⟨frame, rest⟩ := parts
    rw [cut_of_some found]
    show limit < frame.length
    obtain ⟨joins, _⟩ := splitFirst?_eq_some_iff.mp found
    by_contra short
    -- Then the delimiter behind the frame would lie in the buffer.
    have begins : frame ++ delimiter <+: buffer ++ later := by
      rw [joins, ← List.append_assoc]
      exact List.prefix_append _ _
    have inside : frame ++ delimiter <+: buffer := by
      refine List.prefix_of_prefix_length_le begins (List.prefix_append _ _) ?_
      rw [List.length_append]
      omega
    exact splitFirst?_eq_none_iff.mp split ((List.suffix_append _ _).isInfix.trans inside.isInfix)

end Frame

namespace FrameDecoder

open TestDaemon.Frame

/-- The searched part lies in the buffer and holds no delimiter. -/
structure Searched (decoder : FrameDecoder) : Prop where
  within : decoder.searched ≤ decoder.buffer.length
  clear : ¬ delimiter <:+: decoder.buffer.take decoder.searched

theorem searched_of_zero {decoder : FrameDecoder} (fresh : decoder.searched = 0) :
    decoder.Searched := by
  refine ⟨by omega, ?_⟩
  rw [fresh, List.take_zero]
  decide

theorem searched_new (limit : Nat) : (new limit).Searched := searched_of_zero rfl

theorem Searched.feed {decoder : FrameDecoder} (searched : decoder.Searched) (bytes : Bytes) :
    (decoder.feed bytes).Searched := by
  have within := searched.within
  refine ⟨by simp only [FrameDecoder.feed, List.length_append]; omega, ?_⟩
  simpa only [FrameDecoder.feed, List.take_append_of_le_length within] using searched.clear

/-- Going back by one byte less than a delimiter makes up for the searched part. -/
theorem Searched.find {decoder : FrameDecoder} (searched : decoder.Searched) :
    Bytes.findFrom? delimiter (decoder.searched - (delimiter.length - 1))
      (decoder.buffer.drop (decoder.searched - (delimiter.length - 1))) =
        Bytes.find? delimiter decoder.buffer := by
  have length : delimiter.length = 5 := rfl
  refine Bytes.findFrom?_drop fun earlier before occurs => searched.clear ?_
  refine Bytes.infix_iff_exists_drop.mpr ⟨earlier, ?_⟩
  rw [List.drop_take, List.prefix_take_iff]
  exact ⟨occurs, by omega⟩

/-- The decoder splits its buffer at the first delimiter, whatever it remembers. -/
theorem Searched.decode_eq {decoder : FrameDecoder} (searched : decoder.Searched) :
    decoder.decode = match splitFirst? decoder.buffer with
      | some (frame, rest) =>
        if decoder.limit < frame.length then
          (.error (.frameTooLong decoder.limit), { decoder with searched := 0 })
        else (.ok (some frame), { decoder with searched := 0, buffer := rest })
      | none =>
        if decoder.limit + delimiter.length < decoder.buffer.length then
          (.error (.frameTooLong decoder.limit), decoder)
        else (.ok none, { decoder with searched := decoder.buffer.length }) := by
  simp only [decode, searched.find, splitFirst?]
  cases found : Bytes.find? delimiter decoder.buffer with
  | none => rfl
  | some position =>
    have bound := (Bytes.findFrom?_bound found).2
    have length : (decoder.buffer.take position).length = position := by
      rw [List.length_take]
      omega
    simp only [Option.map_some, length]

/-! ## What one decoding does -/

theorem Searched.of_frame {decoder after : FrameDecoder} {frame : Bytes}
    (searched : decoder.Searched) (decoded : decoder.decode = (.ok (some frame), after)) :
    splitFirst? decoder.buffer = some (frame, after.buffer) ∧ frame.length ≤ decoder.limit ∧
      after.limit = decoder.limit ∧ after.Searched := by
  rw [searched.decode_eq] at decoded
  split at decoded
  · next first rest split =>
    split at decoded
    · simp at decoded
    · next short =>
      obtain ⟨same, rfl⟩ := Prod.mk.inj decoded
      obtain rfl := Option.some.inj (Except.ok.inj same)
      exact ⟨split, Nat.not_lt.mp short, rfl, searched_of_zero rfl⟩
  · split at decoded <;> simp at decoded

theorem Searched.of_none {decoder after : FrameDecoder} (searched : decoder.Searched)
    (decoded : decoder.decode = (.ok none, after)) :
    splitFirst? decoder.buffer = none ∧ decoder.buffer.length ≤ decoder.limit + delimiter.length ∧
      after.buffer = decoder.buffer ∧ after.limit = decoder.limit ∧ after.Searched := by
  rw [searched.decode_eq] at decoded
  split at decoded
  · split at decoded <;> simp at decoded
  · next split =>
    split at decoded
    · simp at decoded
    · next short =>
      obtain ⟨_, rfl⟩ := Prod.mk.inj decoded
      refine ⟨split, Nat.not_lt.mp short, rfl, rfl, Nat.le_refl _, ?_⟩
      rw [List.take_length]
      exact splitFirst?_eq_none_iff.mp split

theorem Searched.of_error {decoder after : FrameDecoder} {error : Error}
    (searched : decoder.Searched) (decoded : decoder.decode = (.error error, after)) :
    error = .frameTooLong decoder.limit ∧ after.buffer = decoder.buffer ∧
      after.limit = decoder.limit ∧ after.Searched ∧
      ∀ later, Overlong decoder.limit (cut (decoder.buffer ++ later)) := by
  rw [searched.decode_eq] at decoded
  split at decoded
  · next frame rest split =>
    split at decoded
    · next long =>
      obtain ⟨same, rfl⟩ := Prod.mk.inj decoded
      exact ⟨(Except.error.inj same).symm, rfl, rfl, searched_of_zero rfl,
        overlong_of_frame split long⟩
    · simp at decoded
  · next split =>
    split at decoded
    · next long =>
      obtain ⟨same, rfl⟩ := Prod.mk.inj decoded
      exact ⟨(Except.error.inj same).symm, rfl, rfl, searched, overlong_of_tail split long⟩
    · simp at decoded

/-! ## Reading a stream -/

/-- What a decoder has given: frames, and the error that ended them, if one did. -/
structure Received where
  frames : List Bytes
  error : Option Error
  decoder : FrameDecoder

/-- Decode until no complete frame is left. -/
def drain (decoder : FrameDecoder) : Received :=
  match _ : decoder.decode with
  | (.error error, after) => ⟨[], some error, after⟩
  | (.ok none, after) => ⟨[], none, after⟩
  | (.ok (some frame), after) =>
    let rest := drain after
    { rest with frames := frame :: rest.frames }
termination_by decoder.buffer.length
decreasing_by exact decode_length ‹_›

theorem drain_eq (decoder : FrameDecoder) :
    decoder.drain = match decoder.decode with
      | (.error error, after) => ⟨[], some error, after⟩
      | (.ok none, after) => ⟨[], none, after⟩
      | (.ok (some frame), after) => { after.drain with frames := frame :: after.drain.frames } := by
  rw [drain]
  split <;> simp only [*]

/-- Take reads in order, and decode what is complete after each of them. -/
def receive (decoder : FrameDecoder) : List Bytes → Received
  | [] => ⟨[], none, decoder⟩
  | read :: reads =>
    let first := (decoder.feed read).drain
    match first.error with
    | some _ => first
    | none =>
      let rest := first.decoder.receive reads
      { rest with frames := first.frames ++ rest.frames }

theorem Searched.drain_clear {decoder : FrameDecoder} (searched : decoder.Searched) :
    (∀ frame ∈ decoder.drain.frames, ¬ delimiter <:+: frame) ∧ decoder.drain.decoder.Searched := by
  induction decoder using drain.induct with
  | case1 decoder error after decoded =>
    obtain ⟨_, _, _, searched, _⟩ := searched.of_error decoded
    rw [drain_eq, decoded]
    exact ⟨by simp, searched⟩
  | case2 decoder after decoded =>
    obtain ⟨_, _, _, _, searched⟩ := searched.of_none decoded
    rw [drain_eq, decoded]
    exact ⟨by simp, searched⟩
  | case3 decoder frame after decoded ih =>
    obtain ⟨split, _, _, later⟩ := searched.of_frame decoded
    obtain ⟨clear, last⟩ := ih later
    rw [drain_eq, decoded]
    refine ⟨fun other member => ?_, last⟩
    rcases List.mem_cons.mp member with rfl | member
    · exact (splitFirst?_eq_some_iff.mp split).2
    · exact clear other member

/-- A stream that keeps to the limit loses its complete frames to the decoder, and nothing else. -/
theorem Searched.drain_fit {decoder : FrameDecoder} (searched : decoder.Searched) {later : Bytes}
    (fit : Fit decoder.limit (cut (decoder.buffer ++ later))) :
    ∃ after, decoder.drain = ⟨(cut decoder.buffer).1, none, after⟩ ∧
      after.buffer = (cut decoder.buffer).2 ∧ after.limit = decoder.limit ∧ after.Searched := by
  induction decoder using drain.induct with
  | case1 decoder error after decoded =>
    exact absurd ((searched.of_error decoded).2.2.2.2 later) fit.not_overlong
  | case2 decoder after decoded =>
    obtain ⟨split, _, buffer, limit, searched⟩ := searched.of_none decoded
    refine ⟨after, ?_, by rw [buffer, cut_of_none split], limit, searched⟩
    rw [cut_of_none split, drain_eq, decoded]
  | case3 decoder frame after decoded ih =>
    obtain ⟨split, _, limit, next⟩ := searched.of_frame decoded
    have fitRest : Fit after.limit (cut (after.buffer ++ later)) := by
      rw [cut_append, cut_of_some split] at fit
      rw [cut_append, limit]
      exact ⟨fun other member => fit.1 other (List.mem_cons_of_mem _ member), fit.2⟩
    obtain ⟨last, drained, buffer, lastLimit, lastSearched⟩ := ih next fitRest
    refine ⟨last, ?_, by rw [buffer, cut_of_some split], lastLimit.trans limit, lastSearched⟩
    rw [cut_of_some split, drain_eq, decoded]
    simp only [drained]

theorem Searched.receive_clear {decoder : FrameDecoder} (searched : decoder.Searched)
    (reads : List Bytes) : ∀ frame ∈ (decoder.receive reads).frames, ¬ delimiter <:+: frame := by
  induction reads generalizing decoder with
  | nil => simp [receive]
  | cons read reads ih =>
    obtain ⟨clear, drained⟩ := (searched.feed read).drain_clear
    rw [receive]
    split
    · exact clear
    · intro frame member
      rcases List.mem_append.mp member with first | later
      · exact clear frame first
      · exact ih drained frame later

/-- Wherever the reads fall, the frames are those of the whole stream. -/
theorem Searched.receive_fit {decoder : FrameDecoder} (searched : decoder.Searched)
    (drained : splitFirst? decoder.buffer = none) (reads : List Bytes)
    (fit : Fit decoder.limit (cut (decoder.buffer ++ reads.flatten))) :
    ∃ after, decoder.receive reads = ⟨(cut (decoder.buffer ++ reads.flatten)).1, none, after⟩ ∧
      after.buffer = (cut (decoder.buffer ++ reads.flatten)).2 := by
  induction reads generalizing decoder with
  | nil =>
    rw [List.flatten_nil, List.append_nil, cut_of_none drained]
    exact ⟨decoder, rfl, rfl⟩
  | cons read reads ih =>
    rw [List.flatten_cons, ← List.append_assoc] at fit ⊢
    obtain ⟨middle, first, buffer, limit, next⟩ := (searched.feed read).drain_fit fit
    have clear : splitFirst? middle.buffer = none := by
      rw [buffer]
      exact splitFirst?_eq_none_iff.mpr (cut_clear _).2
    have fitRest : Fit middle.limit (cut (middle.buffer ++ reads.flatten)) := by
      rw [cut_append] at fit
      rw [buffer, limit]
      exact ⟨fun frame member => fit.1 frame (List.mem_append_right _ member), fit.2⟩
    obtain ⟨last, rest, lastBuffer⟩ := ih next clear fitRest
    rw [buffer] at rest lastBuffer
    refine ⟨last, ?_, by rw [lastBuffer, cut_append (decoder.buffer ++ read)]; rfl⟩
    rw [receive, first, cut_append (decoder.buffer ++ read)]
    simp only [rest]
    rfl

end FrameDecoder

/-! ## Requests on a stream -/

/-- A request that a client builds. -/
inductive Outgoing where
  | command (text : String)
  | deploy (archive : Bytes)

namespace Outgoing

/-- What a request holds before its delimiter. -/
def body : Outgoing → Bytes
  | command text => Utf8.encode text
  | deploy archive => Utf8.encode deployHead ++ archive

def bytes : Outgoing → Bytes
  | command text => ofCommand text
  | deploy archive => ofDeploy archive

theorem flatMap_bytes (requests : List Outgoing) :
    requests.flatMap bytes = Frame.joined (requests.map body) [] := by
  induction requests with
  | nil => rfl
  | cons request requests ih =>
    rw [List.flatMap_cons, ih, List.map_cons, Frame.joined_cons]
    cases request <;> simp [bytes, body, ofCommand, ofDeploy]

end Outgoing

/-- The bodies of requests come through a stream, whatever its reads, exactly if none of them holds the
delimiter. -/
theorem FrameDecoder.receive_requests_iff (requests : List Outgoing) (limit : Nat)
    (reads : List Bytes) (fits : ∀ request ∈ requests, request.body.length ≤ limit)
    (division : reads.flatten = requests.flatMap Outgoing.bytes) :
    (((new limit).receive reads).frames = requests.map Outgoing.body ∧
        ((new limit).receive reads).error = none ∧
        ((new limit).receive reads).decoder.buffer = []) ↔
      ∀ request ∈ requests, ¬ delimiter <:+: request.body := by
  have searched := searched_new limit
  constructor
  · rintro ⟨frames, _⟩ request member
    have clear := searched.receive_clear reads
    rw [frames] at clear
    exact clear request.body (List.mem_map_of_mem member)
  · intro clear
    have parts : Frame.cut ((new limit).buffer ++ reads.flatten) =
        (requests.map Outgoing.body, []) := by
      refine Frame.cut_eq_iff.mpr ⟨?_, ?_, by decide⟩
      · rw [division, Outgoing.flatMap_bytes]
        rfl
      · simpa using clear
    have fit : Frame.Fit limit (Frame.cut ((new limit).buffer ++ reads.flatten)) := by
      rw [parts]
      exact ⟨by simpa using fits, Nat.zero_le _⟩
    have empty : Frame.splitFirst? [] = none := by decide
    obtain ⟨after, received, buffer⟩ := searched.receive_fit empty reads fit
    rw [parts] at received buffer
    exact ⟨by rw [received], by rw [received], by rw [received]; exact buffer⟩

/-- A body may end in the beginning of a delimiter, and a delimiter may be divided between reads. -/
theorem FrameDecoder.receive_requests_divided :
    let requests := [Outgoing.deploy [0x00, 0x3C, 0x3C, 0x45, 0x4F], .command "CMD stop"]
    let reads : List Bytes := [[0x44, 0x50, 0x4C, 0x20, 0x00, 0x3C, 0x3C, 0x45, 0x4F, 0x3C],
      [0x3C, 0x45], [0x4F, 0x46, 0x43, 0x4D], [0x44, 0x20, 0x73, 0x74, 0x6F, 0x70, 0x3C, 0x3C, 0x45, 0x4F],
      [0x46]]
    (∀ request ∈ requests, request.body.length ≤ 9) ∧
      reads.flatten = requests.flatMap Outgoing.bytes ∧
      ((new 9).receive reads).frames = requests.map Outgoing.body ∧
      ((new 9).receive reads).error = none ∧ ((new 9).receive reads).decoder.buffer = [] := by
  intro requests reads
  have fits : ∀ request ∈ requests, request.body.length ≤ 9 := by decide +kernel
  have division : reads.flatten = requests.flatMap Outgoing.bytes := by decide +kernel
  have clear : ∀ request ∈ requests, ¬ delimiter <:+: request.body := by decide +kernel
  exact ⟨fits, division, (receive_requests_iff requests 9 reads fits division).mpr clear⟩

end TestDaemon
