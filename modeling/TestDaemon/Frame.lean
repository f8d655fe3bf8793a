import TestDaemon.Error
import TestDaemon.Request

/-! # Frames

A byte stream is cut into frames at each leftmost delimiter. The decoder does this as bytes arrive.
It remembers how far it has searched, refuses frames longer than its limit, and drops an unterminated
tail at the end of the stream. `cut` is the same division of a whole stream.
-/

namespace TestDaemon

def Error.frameTooLong (limit : Nat) : Error :=
  ⟨.protocol, s!"frame too long: exceeded {limit} bytes"⟩

/-- The field `searched` counts the leading bytes of the buffer that are known to hold no delimiter. -/
structure FrameDecoder where
  limit : Nat
  searched : Nat
  buffer : Bytes
  deriving DecidableEq, Repr

namespace FrameDecoder

/-- The limit where none is configured, 64 MiB. -/
def defaultLimit : Nat := 67108864

def new (limit : Nat) : FrameDecoder := ⟨limit, 0, []⟩

def feed (decoder : FrameDecoder) (bytes : Bytes) : FrameDecoder :=
  { decoder with buffer := decoder.buffer ++ bytes }

/-- The next frame, without its delimiter. A delimiter may lie across the end of the searched part,
so the search goes back by one byte less than its length. -/
def decode (decoder : FrameDecoder) : Except Error (Option Bytes) × FrameDecoder :=
  let start := decoder.searched - (Request.delimiter.length - 1)
  match Bytes.findFrom? Request.delimiter start (decoder.buffer.drop start) with
  | some position =>
    if decoder.limit < position then
      (.error (.frameTooLong decoder.limit), { decoder with searched := 0 })
    else
      (.ok (some (decoder.buffer.take position)),
        { decoder with
          searched := 0
          buffer := decoder.buffer.drop (position + Request.delimiter.length) })
  | none =>
    if decoder.limit + Request.delimiter.length < decoder.buffer.length then
      (.error (.frameTooLong decoder.limit), decoder)
    else (.ok none, { decoder with searched := decoder.buffer.length })

/-- The next frame at the end of the stream; a tail without delimiter is dropped. -/
def decodeEnd (decoder : FrameDecoder) : Except Error (Option Bytes) × FrameDecoder :=
  match decoder.decode with
  | (.ok none, after) => (.ok none, { after with searched := 0, buffer := [] })
  | decoded => decoded

end FrameDecoder

namespace Bytes

theorem findFrom?_bound {pattern bytes : Bytes} {start position : Nat}
    (found : findFrom? pattern start bytes = some position) :
    start ≤ position ∧ position + pattern.length ≤ start + bytes.length := by
  fun_induction findFrom? pattern start bytes with
  | case1 start empty =>
    obtain rfl := Option.some.inj found
    simp [List.isEmpty_iff.mp empty]
  | case2 => simp at found
  | case3 start byte rest here =>
    obtain rfl := Option.some.inj found
    have := (List.isPrefixOf_iff_prefix.mp here).length_le
    omega
  | case4 start byte rest _ ih =>
    have := ih found
    simp only [List.length_cons]
    omega

end Bytes

namespace Frame

/-- The bytes before the first delimiter and those after it. -/
def splitFirst? (stream : Bytes) : Option (Bytes × Bytes) :=
  (Bytes.find? Request.delimiter stream).map fun position =>
    (stream.take position, stream.drop (position + Request.delimiter.length))

theorem splitFirst?_length {stream frame rest : Bytes}
    (split : splitFirst? stream = some (frame, rest)) : rest.length < stream.length := by
  obtain ⟨position, found, same⟩ := Option.map_eq_some_iff.mp split
  obtain ⟨rfl, rfl⟩ := Prod.mk.inj same
  have := (Bytes.findFrom?_bound found).2
  simp only [List.length_drop, Request.delimiter, List.length_cons, List.length_nil] at this ⊢
  omega

/-- The frames of a stream, and the tail after the last delimiter. -/
def cut (stream : Bytes) : List Bytes × Bytes :=
  match _ : splitFirst? stream with
  | none => ([], stream)
  | some (frame, rest) =>
    let (frames, tail) := cut rest
    (frame :: frames, tail)
termination_by stream.length
decreasing_by exact splitFirst?_length ‹_›

end Frame

end TestDaemon
