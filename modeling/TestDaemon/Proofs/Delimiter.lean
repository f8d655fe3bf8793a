import TestDaemon.Frame
import Mathlib.Data.List.Basic
import Mathlib.Data.Nat.Find

/-! # Occurrences of the delimiter

The search finds the first occurrence of its pattern, and may begin behind bytes at which no occurrence
begins. The delimiter has no border: no proper end of it is also its beginning. So an occurrence cannot
reach from a frame into the delimiter behind it, and the division of a stream into frames is the only
one whose frames and tail are free of delimiters (`Frame.cut_eq_iff`).
-/

namespace TestDaemon

namespace Bytes

theorem findFrom?_eq_some_iff {pattern bytes : Bytes} {start position : Nat} :
    findFrom? pattern start bytes = some position ↔
      start ≤ position ∧ pattern <+: bytes.drop (position - start) ∧
        ∀ earlier < position - start, ¬ pattern <+: bytes.drop earlier := by
  fun_induction findFrom? pattern start bytes with
  | case1 start empty =>
    obtain rfl := List.isEmpty_iff.mp empty
    simp only [Option.some.injEq, List.drop_nil, List.nil_prefix, not_true_eq_false, imp_false,
      Nat.not_lt, true_and]
    constructor
    · rintro rfl
      exact ⟨Nat.le_refl _, fun earlier => by omega⟩
    · rintro ⟨after, none⟩
      have := none 0
      omega
  | case2 start nonempty =>
    have missing : ¬ pattern <+: [] := by simpa [List.isEmpty_iff] using nonempty
    simp [missing]
  | case3 start byte rest here =>
    have here := List.isPrefixOf_iff_prefix.mp here
    simp only [Option.some.injEq]
    constructor
    · rintro rfl
      simpa using here
    · rintro ⟨after, _, none⟩
      by_contra different
      exact none 0 (by omega) here
  | case4 start byte rest absent ih =>
    have absent : ¬ pattern <+: byte :: rest := by simpa using absent
    rw [ih]
    constructor
    · rintro ⟨after, here, none⟩
      have shift : position - start = position - (start + 1) + 1 := by omega
      refine ⟨by omega, by rw [shift]; exact here, fun earlier before => ?_⟩
      cases earlier with
      | zero => exact absent
      | succ earlier => exact none earlier (by omega)
    · rintro ⟨after, here, none⟩
      have later : start ≠ position := by
        rintro rfl
        rw [Nat.sub_self] at here
        exact absent here
      have shift : position - start = position - (start + 1) + 1 := by omega
      rw [shift] at here
      exact ⟨by omega, here, fun earlier before => none (earlier + 1) (by omega)⟩

theorem infix_iff_exists_drop {pattern bytes : Bytes} :
    pattern <:+: bytes ↔ ∃ position, pattern <+: bytes.drop position := by
  rw [List.infix_iff_prefix_suffix]
  constructor
  · rintro ⟨_, here, ends⟩
    exact ⟨_, List.suffix_iff_eq_drop.mp ends ▸ here⟩
  · rintro ⟨position, here⟩
    exact ⟨_, here, List.drop_suffix position bytes⟩

theorem find?_eq_some_iff {pattern bytes : Bytes} {position : Nat} :
    find? pattern bytes = some position ↔
      pattern <+: bytes.drop position ∧ ∀ earlier < position, ¬ pattern <+: bytes.drop earlier := by
  simp [find?, findFrom?_eq_some_iff]

theorem findFrom?_eq_none {pattern bytes : Bytes} {start : Nat} (absent : ¬ pattern <:+: bytes) :
    findFrom? pattern start bytes = none := by
  by_contra found
  obtain ⟨position, found⟩ := Option.ne_none_iff_exists'.mp found
  exact absent (infix_iff_exists_drop.mpr ⟨_, (findFrom?_eq_some_iff.mp found).2.1⟩)

theorem find?_eq_none_iff {pattern bytes : Bytes} :
    find? pattern bytes = none ↔ ¬ pattern <:+: bytes := by
  refine ⟨fun missing occurs => ?_, findFrom?_eq_none⟩
  obtain ⟨position, here⟩ := infix_iff_exists_drop.mp occurs
  -- The first position of an occurrence is the one that the search finds.
  classical
  have exists' : ∃ position, pattern <+: bytes.drop position := ⟨position, here⟩
  have found := find?_eq_some_iff.mpr
    ⟨Nat.find_spec exists', fun _ before => Nat.find_min exists' before⟩
  rw [missing] at found
  contradiction

/-- A search may leave out a beginning at which no occurrence begins. -/
theorem findFrom?_drop {pattern bytes : Bytes} {start : Nat}
    (clear : ∀ earlier < start, ¬ pattern <+: bytes.drop earlier) :
    findFrom? pattern start (bytes.drop start) = find? pattern bytes := by
  refine Option.ext fun position => ?_
  rw [findFrom?_eq_some_iff, find?_eq_some_iff]
  constructor
  · rintro ⟨after, here, none⟩
    rw [List.drop_drop, Nat.add_sub_cancel' after] at here
    refine ⟨here, fun earlier before => ?_⟩
    by_cases skipped : earlier < start
    · exact clear earlier skipped
    · have := none (earlier - start) (by omega)
      rwa [List.drop_drop, Nat.add_sub_cancel' (by omega)] at this
  · rintro ⟨here, none⟩
    have after : start ≤ position := by
      by_contra before
      exact clear position (by omega) here
    refine ⟨after, by rwa [List.drop_drop, Nat.add_sub_cancel' after], fun earlier before => ?_⟩
    rw [List.drop_drop]
    exact none (start + earlier) (by omega)

/-- An occurrence does not reach across a byte that the pattern does not hold. -/
theorem infix_append_cons {pattern front back : Bytes} {byte : UInt8} (foreign : byte ∉ pattern)
    (occurs : pattern <:+: front ++ byte :: back) : pattern <:+: front ∨ pattern <:+: back := by
  rcases List.infix_append_iff.mp occurs with inFront | inBack | ⟨left, right, rfl, ends, begins⟩
  · exact .inl inFront
  · rcases List.infix_cons_iff.mp inBack with begins | inBack
    · cases pattern with
      | nil => exact .inr List.nil_infix
      | cons first pattern =>
        obtain ⟨rfl, _⟩ := List.cons_prefix_cons.mp begins
        exact absurd (List.mem_cons_self ..) foreign
    · exact .inr inBack
  · cases right with
    | nil => exact .inl (by simpa using ends.isInfix)
    | cons first right =>
      obtain ⟨rfl, _⟩ := List.cons_prefix_cons.mp begins
      exact absurd (List.mem_append_right _ (List.mem_cons_self ..)) foreign

end Bytes

namespace Request

/-- The last byte of the delimiter stands at its end only. -/
theorem delimiter_getElem?_ne {index : Nat} (inner : index < 4) :
    delimiter[index]? ≠ some 0x46 := by
  have : index = 0 ∨ index = 1 ∨ index = 2 ∨ index = 3 := by omega
  rcases this with rfl | rfl | rfl | rfl <;> decide

/-- An occurrence that begins before a delimiter lies before it. -/
theorem infix_of_occurrence {body rest : Bytes} {position : Nat} (early : position < body.length)
    (occurs : delimiter <+: (body ++ (delimiter ++ rest)).drop position) : delimiter <:+: body := by
  have length : delimiter.length = 5 := rfl
  by_cases inside : position + 5 ≤ body.length
  · rw [List.drop_append_of_le_length (by omega)] at occurs
    have here : delimiter <+: body.drop position :=
      List.prefix_of_prefix_length_le occurs (List.prefix_append _ _) (by simp; omega)
    exact Bytes.infix_iff_exists_drop.mpr ⟨position, here⟩
  · -- The occurrence would end inside the delimiter behind the body.
    have last := List.prefix_iff_getElem?.mp occurs 4 (by decide)
    rw [List.getElem?_drop, List.getElem?_append_right (by omega),
      List.getElem?_append_left (by omega)] at last
    exact absurd last (delimiter_getElem?_ne (by omega))

theorem not_infix_append_space {front back : Bytes} (clearFront : ¬ delimiter <:+: front)
    (clearBack : ¬ delimiter <:+: back) : ¬ delimiter <:+: front ++ 0x20 :: back := by
  intro occurs
  rcases Bytes.infix_append_cons (by decide) occurs with inFront | inBack
  · exact clearFront inFront
  · exact clearBack inBack

end Request

namespace Frame

open Request

theorem splitFirst?_eq_none_iff {stream : Bytes} :
    splitFirst? stream = none ↔ ¬ delimiter <:+: stream := by
  rw [splitFirst?, Option.map_eq_none_iff, Bytes.find?_eq_none_iff]

theorem splitFirst?_append {frame : Bytes} (clear : ¬ delimiter <:+: frame) (rest : Bytes) :
    splitFirst? (frame ++ (delimiter ++ rest)) = some (frame, rest) := by
  have found : Bytes.find? delimiter (frame ++ (delimiter ++ rest)) = some frame.length := by
    refine Bytes.find?_eq_some_iff.mpr ⟨?_, fun earlier before occurs => ?_⟩
    · rw [List.drop_left]
      exact List.prefix_append _ _
    · exact clear (infix_of_occurrence before occurs)
  simp [splitFirst?, found, ← List.drop_drop]

/-- The first delimiter is the one behind a frame that is free of delimiters. -/
theorem splitFirst?_eq_some_iff {stream frame rest : Bytes} :
    splitFirst? stream = some (frame, rest) ↔
      stream = frame ++ (delimiter ++ rest) ∧ ¬ delimiter <:+: frame := by
  constructor
  · intro split
    obtain ⟨position, found, same⟩ := Option.map_eq_some_iff.mp split
    obtain ⟨rfl, rfl⟩ := Prod.mk.inj same
    obtain ⟨⟨after, here⟩, none⟩ := Bytes.find?_eq_some_iff.mp found
    constructor
    · have behind : after = stream.drop (position + delimiter.length) := by
        rw [← List.drop_drop, ← here, List.drop_left]
      rw [← behind, here, List.take_append_drop]
    · intro occurs
      obtain ⟨earlier, occurs⟩ := Bytes.infix_iff_exists_drop.mp occurs
      have bound := occurs.length_le
      simp only [List.length_drop, List.length_take, delimiter, List.length_cons,
        List.length_nil] at bound
      refine none earlier (by omega) (occurs.trans ?_)
      rw [List.drop_take]
      exact List.take_prefix _ _
  · rintro ⟨rfl, clear⟩
    exact splitFirst?_append clear rest

/-- The stream that frames and a tail are cut from. -/
def joined (frames : List Bytes) (tail : Bytes) : Bytes :=
  frames.flatMap (fun frame => frame ++ delimiter) ++ tail

@[simp] theorem joined_nil (tail : Bytes) : joined [] tail = tail := rfl

@[simp] theorem joined_cons (frame : Bytes) (frames : List Bytes) (tail : Bytes) :
    joined (frame :: frames) tail = frame ++ (delimiter ++ joined frames tail) := by
  simp [joined]

theorem cut_of_none {stream : Bytes} (split : splitFirst? stream = none) :
    cut stream = ([], stream) := by
  rw [cut]
  split
  · rfl
  · simp_all

theorem cut_of_some {stream frame rest : Bytes} (split : splitFirst? stream = some (frame, rest)) :
    cut stream = (frame :: (cut rest).1, (cut rest).2) := by
  rw [cut]
  split
  · simp_all
  · next first later same =>
    obtain ⟨rfl, rfl⟩ := Prod.mk.inj (Option.some.inj (split.symm.trans same))
    rfl

theorem cut_append_of_some {stream frame rest : Bytes}
    (split : splitFirst? stream = some (frame, rest)) (later : Bytes) :
    cut (stream ++ later) = (frame :: (cut (rest ++ later)).1, (cut (rest ++ later)).2) := by
  obtain ⟨rfl, clear⟩ := splitFirst?_eq_some_iff.mp split
  rw [List.append_assoc, List.append_assoc]
  exact cut_of_some (splitFirst?_append clear _)

theorem joined_cut (stream : Bytes) : joined (cut stream).1 (cut stream).2 = stream := by
  induction stream using cut.induct with
  | case1 stream split => rw [cut_of_none split, joined_nil]
  | case2 stream frame rest split _ _ _ ih =>
    rw [cut_of_some split, joined_cons, ih]
    exact (splitFirst?_eq_some_iff.mp split).1.symm

theorem cut_clear (stream : Bytes) :
    (∀ frame ∈ (cut stream).1, ¬ delimiter <:+: frame) ∧ ¬ delimiter <:+: (cut stream).2 := by
  induction stream using cut.induct with
  | case1 stream split =>
    rw [cut_of_none split]
    exact ⟨by simp, splitFirst?_eq_none_iff.mp split⟩
  | case2 stream frame rest split _ _ _ ih =>
    rw [cut_of_some split]
    refine ⟨fun other member => ?_, ih.2⟩
    rcases List.mem_cons.mp member with rfl | member
    · exact (splitFirst?_eq_some_iff.mp split).2
    · exact ih.1 other member

theorem cut_joined {frames : List Bytes} {tail : Bytes}
    (clearFrames : ∀ frame ∈ frames, ¬ delimiter <:+: frame) (clearTail : ¬ delimiter <:+: tail) :
    cut (joined frames tail) = (frames, tail) := by
  induction frames with
  | nil => exact cut_of_none (splitFirst?_eq_none_iff.mpr clearTail)
  | cons frame frames ih =>
    have clearFirst := clearFrames frame (List.mem_cons_self ..)
    have rest := ih fun other member => clearFrames other (List.mem_cons_of_mem _ member)
    rw [joined_cons, cut_of_some (splitFirst?_append clearFirst _), rest]

/-- The frames of a stream and its tail are its only parts, between delimiters, that are free of
delimiters. -/
theorem cut_eq_iff {stream tail : Bytes} {frames : List Bytes} :
    cut stream = (frames, tail) ↔
      stream = joined frames tail ∧ (∀ frame ∈ frames, ¬ delimiter <:+: frame) ∧
        ¬ delimiter <:+: tail := by
  constructor
  · intro same
    have joins := joined_cut stream
    have clear := cut_clear stream
    rw [same] at joins clear
    exact ⟨joins.symm, clear⟩
  · rintro ⟨rfl, clearFrames, clearTail⟩
    exact cut_joined clearFrames clearTail

/-- What comes later only continues the tail. -/
theorem cut_append (stream later : Bytes) :
    cut (stream ++ later) =
      ((cut stream).1 ++ (cut ((cut stream).2 ++ later)).1, (cut ((cut stream).2 ++ later)).2) := by
  obtain ⟨clear, _⟩ := cut_clear stream
  obtain ⟨laterClear, tailClear⟩ := cut_clear ((cut stream).2 ++ later)
  refine cut_eq_iff.mpr ⟨?_, fun frame member => ?_, tailClear⟩
  · conv_lhs => rw [← joined_cut stream]
    have rest := joined_cut ((cut stream).2 ++ later)
    simp only [joined] at rest ⊢
    simp [rest]
  · rcases List.mem_append.mp member with first | second
    · exact clear frame first
    · exact laterClear frame second

end Frame

end TestDaemon
