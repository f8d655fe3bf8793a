import TestDaemon.Proofs.Utf8
import Mathlib.Data.List.Infix

/-! # Patterns of ASCII in what is read

A lossy reading puts other characters in the place of ill-formed octets, but none of ASCII: such a
character is read from its own octet only, and neighbours are read from neighbours. So a pattern of ASCII
occurs in what is read exactly if it occurs in the octets. NUL is left out, as it also stands for
numbers that are no character.
-/

namespace TestDaemon.Utf8

/-- The octets of ASCII apart from NUL. -/
def IsPlain (octet : UInt8) : Prop := 0 < octet ∧ octet < 0x80

instance (octet : UInt8) : Decidable (IsPlain octet) := inferInstanceAs (Decidable (_ ∧ _))

theorem isPlain_of_all {pattern : Bytes} (plain : pattern.all (fun octet => decide (IsPlain octet)) = true) :
    ∀ octet ∈ pattern, IsPlain octet :=
  fun octet member => of_decide_eq_true (List.all_eq_true.mp plain octet member)

/-- The character of a plain octet. -/
def charOf (octet : UInt8) : Char := Char.ofNat octet.toNat

/-- The characters that are read from a state on. -/
def readLossy (state : State) (bytes : Bytes) : List Char := (scan state bytes).map (·.getD '\uFFFD')

theorem decodeLossy_toList (bytes : Bytes) : (decodeLossy bytes).toList = readLossy .start bytes :=
  String.toList_ofList

theorem readLossy_encode (text : String) : readLossy .start (encode text) = text.toList := by
  rw [← decodeLossy_toList, decodeLossy_encode]

theorem readLossy_cons (state : State) (octet : UInt8) (rest : Bytes) :
    readLossy state (octet :: rest) =
      (step state octet).1.map (·.getD '\uFFFD') ++ readLossy (step state octet).2 rest := by
  rw [readLossy, readLossy, ← List.map_append]
  cases state <;> rfl

/-! ## Characters that no plain octet stands for -/

/-- A character that no plain octet stands for. -/
def Foreign (c : Char) : Prop := ∀ octet, IsPlain octet → c ≠ charOf octet

theorem toNat_ofNat {value : Nat} (valid : value.isValidChar) : (Char.ofNat value).toNat = value := by
  rw [Char.ofNat, dif_pos valid]
  rfl

theorem toNat_charOf {octet : UInt8} (ascii : octet < 0x80) : (charOf octet).toNat = octet.toNat := by
  have ascii : octet.toNat < 0x80 := UInt8.lt_iff_toNat_lt.mp ascii
  exact toNat_ofNat (.inl (by omega))

theorem foreign_of_high {value : Nat} (high : 0x80 ≤ value) : Foreign (Char.ofNat value) := by
  intro octet plain same
  have number := toNat_charOf plain.2
  have positive : 0 < octet.toNat := UInt8.lt_iff_toNat_lt.mp plain.1
  have ascii : octet.toNat < 0x80 := UInt8.lt_iff_toNat_lt.mp plain.2
  rw [← same] at number
  by_cases valid : value.isValidChar
  · rw [toNat_ofNat valid] at number
    omega
  · rw [Char.ofNat, dif_neg valid] at number
    exact absurd number (Nat.ne_of_lt positive)

theorem foreign_replacement : Foreign '\uFFFD' := foreign_of_high (show 0x80 ≤ 0xFFFD by decide)

/-- An occurrence does not begin in front of what it cannot hold. -/
theorem infix_of_append_foreign {pattern : Bytes} {front back : List Char} (nonempty : pattern ≠ [])
    (plain : ∀ octet ∈ pattern, IsPlain octet) (foreign : ∀ c ∈ front, Foreign c)
    (occurs : pattern.map charOf <:+: front ++ back) : pattern.map charOf <:+: back := by
  induction front with
  | nil => exact occurs
  | cons c front ih =>
    rcases List.infix_cons_iff.mp occurs with begins | later
    · cases pattern with
      | nil => contradiction
      | cons octet pattern =>
        have same := (List.cons_prefix_cons.mp begins).1
        exact absurd same.symm (foreign c (List.mem_cons_self ..) octet (plain octet (List.mem_cons_self ..)))
    · exact ih (fun other member => foreign other (List.mem_cons_of_mem _ member)) later

/-! ## States -/

/-- A state in which a character is owed leads to no character of ASCII. -/
def State.IsSound : State → Prop
  | .start => True
  | .owing tails low high value =>
    0x80 ≤ low.toNat ∧ high.toNat ≤ 0xBF ∧ 0x80 ≤ (value * 64 + (low.toNat - 0x80)) * 64 ^ (tails - 1)

theorem State.isSound_start : State.start.IsSound := trivial

theorem lead?_sound {octet : UInt8} {state : State} (led : lead? octet = some state) :
    state.IsSound ∧ state ≠ .start := by
  unfold lead? at led
  simp only [UInt8.lt_iff_toNat_lt] at led
  split_ifs at led
  all_goals
    obtain rfl := Option.some.inj led
    simp_all [State.IsSound, ← UInt8.toNat_inj]
  all_goals omega

theorem begin_high {octet : UInt8} (high : ¬ octet < 0x80) :
    (begin octet).2.IsSound ∧ ∀ c ∈ (begin octet).1.map (·.getD '\uFFFD'), Foreign c := by
  rw [begin, if_neg high]
  cases led : lead? octet with
  | none => exact ⟨State.isSound_start, by simpa using foreign_replacement⟩
  | some state => exact ⟨(lead?_sound led).1, by simp⟩

/-- An octet outside ASCII completes no character of ASCII. -/
theorem step_high {state : State} {octet : UInt8} (sound : state.IsSound) (outside : ¬ octet < 0x80) :
    (step state octet).2.IsSound ∧ ∀ c ∈ (step state octet).1.map (·.getD '\uFFFD'), Foreign c := by
  obtain ⟨beginSound, beginForeign⟩ := begin_high outside
  cases state with
  | start => exact ⟨beginSound, beginForeign⟩
  | owing tails low high value =>
    obtain ⟨above, below, owed⟩ := sound
    rw [step]
    by_cases within : low ≤ octet ∧ octet ≤ high
    · rw [if_pos within]
      have lower := UInt8.le_iff_toNat_le.mp within.1
      have upper := UInt8.le_iff_toNat_le.mp within.2
      have reached : value * 64 + (low.toNat - 0x80) ≤ value * 64 + octet.toNat % 64 := by omega
      have grown := Nat.le_trans owed (Nat.mul_le_mul_right (64 ^ (tails - 1)) reached)
      by_cases last : tails ≤ 1
      · rw [if_pos last]
        rw [Nat.sub_eq_zero_of_le last, Nat.pow_zero, Nat.mul_one] at grown
        exact ⟨State.isSound_start, by simpa using foreign_of_high grown⟩
      · rw [if_neg last]
        obtain ⟨fewer, rfl⟩ : ∃ fewer, tails = fewer + 2 := ⟨tails - 2, by omega⟩
        refine ⟨⟨by decide, by decide, ?_⟩, by simp⟩
        have power : 64 ^ (fewer + 2 - 1) = 64 * 64 ^ (fewer + 2 - 1 - 1) := Nat.pow_succ'
        rw [power, ← Nat.mul_assoc] at grown
        exact grown
    · rw [if_neg within]
      refine ⟨beginSound, ?_⟩
      rw [List.map_cons, List.forall_mem_cons]
      exact ⟨foreign_replacement, beginForeign⟩

/-- The end of the octets brings at most a replacement. -/
theorem foreign_readLossy_nil {state : State} : ∀ c ∈ readLossy state [], Foreign c := by
  cases state with
  | start => simp [readLossy, scan]
  | owing => simpa [readLossy, scan] using foreign_replacement

/-- An octet of ASCII is read as itself, behind what the end of the octets would leave in its place. -/
theorem step_ascii_eq {state : State} {octet : UInt8} (sound : state.IsSound) (ascii : octet < 0x80) :
    step state octet = (scan state [] ++ [some (charOf octet)], .start) := by
  have begun : begin octet = ([some (charOf octet)], .start) := if_pos ascii
  cases state with
  | start => exact begun
  | owing tails low high value =>
    have outside : ¬ (low ≤ octet ∧ octet ≤ high) := by
      rintro ⟨within, _⟩
      have lower := UInt8.le_iff_toNat_le.mp within
      have small := UInt8.lt_iff_toNat_lt.mp ascii
      have above := sound.1
      have bound : (0x80 : UInt8).toNat = 0x80 := rfl
      omega
    rw [step, if_neg outside, begun]
    rfl

/-- An octet of ASCII is a character, behind what it breaks off. -/
theorem step_ascii {state : State} {octet : UInt8} (sound : state.IsSound) (ascii : octet < 0x80) :
    (step state octet).2 = .start ∧
      ∃ front, (∀ c ∈ front, Foreign c) ∧ (front = [] → state = .start) ∧
        (step state octet).1.map (·.getD '\uFFFD') = front ++ [charOf octet] := by
  rw [step_ascii_eq sound ascii]
  refine ⟨rfl, readLossy state [], foreign_readLossy_nil, fun whole => ?_, List.map_append⟩
  cases state with
  | start => rfl
  | owing => simp [readLossy, scan] at whole

/-- An octet that completes nothing leaves a character owed. -/
theorem step_nil {state : State} {octet : UInt8} (silent : (step state octet).1 = []) :
    (step state octet).2 ≠ .start := by
  have beginNil (silent : (begin octet).1 = []) : (begin octet).2 ≠ .start := by
    rw [begin] at silent ⊢
    by_cases ascii : octet < 0x80
    · simp [ascii] at silent
    · rw [if_neg ascii] at silent ⊢
      cases led : lead? octet with
      | none => simp [led] at silent
      | some state => exact (lead?_sound led).2
  cases state with
  | start => exact beginNil silent
  | owing tails low high value =>
    rw [step] at silent ⊢
    by_cases within : low ≤ octet ∧ octet ≤ high
    · rw [if_pos within] at silent ⊢
      by_cases last : tails ≤ 1
      · simp [last] at silent
      · simp [last]
    · simp [within] at silent

/-! ## Occurrences -/

theorem readLossy_ascii {octet : UInt8} (ascii : octet < 0x80) (rest : Bytes) :
    readLossy .start (octet :: rest) = charOf octet :: readLossy .start rest := by
  have begun : begin octet = ([some (charOf octet)], .start) := if_pos ascii
  rw [readLossy_cons, step, begun]
  rfl

/-- Neither a character that is owed nor one that begins outside ASCII is one of ASCII. -/
theorem foreign_of_head {state : State} {bytes : Bytes} {c : Char} (sound : state.IsSound)
    (broken : state ≠ .start ∨ ∃ octet rest, bytes = octet :: rest ∧ ¬ octet < 0x80)
    (first : (readLossy state bytes).head? = some c) : Foreign c := by
  -- As long as octets complete nothing, a character is owed, and the hypothesis passes on.
  induction bytes generalizing state with
  | nil =>
    cases state with
    | start => simp [readLossy, scan] at first
    | owing =>
      obtain rfl : '\uFFFD' = c := Option.some.inj first
      exact foreign_replacement
  | cons octet rest ih =>
    rw [readLossy_cons] at first
    by_cases ascii : octet < 0x80
    · obtain ⟨-, front, foreign, whole, read⟩ := step_ascii sound ascii
      have owes : state ≠ .start := by
        rcases broken with owes | ⟨other, _, same, outside⟩
        · exact owes
        · obtain ⟨rfl, _⟩ := List.cons_eq_cons.mp same
          contradiction
      rw [read] at first
      cases front with
      | nil => exact absurd (whole rfl) owes
      | cons f front =>
        obtain rfl : f = c := Option.some.inj first
        exact foreign f (List.mem_cons_self ..)
    · obtain ⟨next, foreign⟩ := step_high sound ascii
      cases read : (step state octet).1 with
      | nil =>
        rw [read] at first
        exact ih next (.inl (step_nil read)) first
      | cons unit units =>
        rw [read] at first foreign
        obtain rfl : unit.getD '\uFFFD' = c := Option.some.inj first
        exact foreign _ (List.mem_cons_self ..)

theorem prefix_of_readLossy {pattern bytes : Bytes} (plain : ∀ octet ∈ pattern, IsPlain octet)
    (begins : pattern.map charOf <+: readLossy .start bytes) : pattern <+: bytes := by
  induction pattern generalizing bytes with
  | nil => exact List.nil_prefix
  | cons first pattern ih =>
    have plainFirst : IsPlain first := plain first (List.mem_cons_self ..)
    obtain ⟨after, whole⟩ := begins
    cases bytes with
    | nil => simp [readLossy, scan] at whole
    | cons octet rest =>
      by_cases ascii : octet < 0x80
      · rw [readLossy_ascii ascii, List.map_cons, List.cons_append] at whole
        obtain ⟨same, later⟩ := List.cons_eq_cons.mp whole
        have number := congrArg Char.toNat same
        rw [toNat_charOf plainFirst.2, toNat_charOf ascii] at number
        obtain rfl := UInt8.toNat_inj.mp number
        refine List.cons_prefix_cons.mpr ⟨rfl, ih ?_ ⟨after, later⟩⟩
        exact fun other member => plain other (List.mem_cons_of_mem _ member)
      · have head : (readLossy .start (octet :: rest)).head? = some (charOf first) := by
          rw [← whole]
          rfl
        have foreign := foreign_of_head State.isSound_start (.inr ⟨octet, rest, rfl, ascii⟩) head
        exact absurd rfl (foreign first plainFirst)

theorem readLossy_plain {pattern : Bytes} (plain : ∀ octet ∈ pattern, IsPlain octet) (rest : Bytes) :
    readLossy .start (pattern ++ rest) = pattern.map charOf ++ readLossy .start rest := by
  induction pattern with
  | nil => rfl
  | cons octet pattern ih =>
    rw [List.cons_append, readLossy_ascii (plain octet (List.mem_cons_self ..)).2,
      ih fun other member => plain other (List.mem_cons_of_mem _ member)]
    rfl

section

variable {pattern : Bytes} {state : State} {octet : UInt8} {rest : Bytes}

theorem not_infix_readLossy_nil (nonempty : pattern ≠ []) (plain : ∀ octet ∈ pattern, IsPlain octet) :
    ¬ pattern.map charOf <:+: readLossy state [] := by
  intro occurs
  rw [← List.append_nil (readLossy state [])] at occurs
  have nowhere := infix_of_append_foreign nonempty plain foreign_readLossy_nil occurs
  simp [nonempty] at nowhere

/-- An occurrence begins with an octet of ASCII, or behind it. -/
theorem infix_readLossy_ascii (nonempty : pattern ≠ []) (plain : ∀ octet ∈ pattern, IsPlain octet)
    (sound : state.IsSound) (ascii : octet < 0x80)
    (later : pattern.map charOf <:+: readLossy .start rest ↔ pattern <:+: rest) :
    pattern.map charOf <:+: readLossy state (octet :: rest) ↔ pattern <:+: octet :: rest := by
  obtain ⟨start, front, foreign, -, read⟩ := step_ascii sound ascii
  rw [readLossy_cons, read, start, List.append_assoc, List.singleton_append, ← readLossy_ascii ascii,
    List.infix_cons_iff]
  constructor
  · intro occurs
    have here := infix_of_append_foreign nonempty plain foreign occurs
    rw [readLossy_ascii ascii, List.infix_cons_iff, ← readLossy_ascii ascii] at here
    exact here.imp (prefix_of_readLossy plain) later.mp
  · rintro (⟨after, whole⟩ | behind)
    · refine List.IsInfix.trans ?_ (List.suffix_append ..).isInfix
      rw [← whole, readLossy_plain plain]
      exact (List.prefix_append ..).isInfix
    · refine (later.mpr behind).trans (List.IsSuffix.isInfix ?_)
      rw [readLossy_ascii ascii]
      exact (List.suffix_cons ..).trans (List.suffix_append ..)

/-- An occurrence does not begin with an octet outside ASCII. -/
theorem infix_readLossy_high (nonempty : pattern ≠ []) (plain : ∀ octet ∈ pattern, IsPlain octet)
    (sound : state.IsSound) (outside : ¬ octet < 0x80)
    (later : pattern.map charOf <:+: readLossy (step state octet).2 rest ↔ pattern <:+: rest) :
    pattern.map charOf <:+: readLossy state (octet :: rest) ↔ pattern <:+: octet :: rest := by
  obtain ⟨-, foreign⟩ := step_high sound outside
  rw [readLossy_cons, List.infix_cons_iff]
  constructor
  · intro occurs
    exact .inr (later.mp (infix_of_append_foreign nonempty plain foreign occurs))
  · rintro (⟨after, whole⟩ | behind)
    · cases pattern with
      | nil => contradiction
      | cons first pattern =>
        obtain ⟨rfl, _⟩ := List.cons_eq_cons.mp whole
        exact absurd (plain first (List.mem_cons_self ..)).2 outside
    · exact (later.mpr behind).trans (List.suffix_append ..).isInfix

end

/-- A pattern occurs in what is read exactly if it occurs in the octets. -/
theorem infix_readLossy_iff {pattern : Bytes} (nonempty : pattern ≠ [])
    (plain : ∀ octet ∈ pattern, IsPlain octet) {state : State} (sound : state.IsSound) {bytes : Bytes} :
    pattern.map charOf <:+: readLossy state bytes ↔ pattern <:+: bytes := by
  induction bytes generalizing state with
  | nil => simp [not_infix_readLossy_nil nonempty plain, nonempty]
  | cons octet rest ih =>
    by_cases ascii : octet < 0x80
    · exact infix_readLossy_ascii nonempty plain sound ascii (ih State.isSound_start)
    · exact infix_readLossy_high nonempty plain sound ascii (ih (step_high sound ascii).1)

/-- An encoded text holds the patterns that the text holds. -/
theorem infix_encode_iff {pattern : Bytes} (nonempty : pattern ≠ [])
    (plain : ∀ octet ∈ pattern, IsPlain octet) {text : String} :
    pattern <:+: encode text ↔ pattern.map charOf <:+: text.toList := by
  rw [← readLossy_encode, infix_readLossy_iff nonempty plain State.isSound_start]

/-- A lossy reading brings no pattern with it. -/
theorem infix_decodeLossy_iff {pattern : Bytes} (nonempty : pattern ≠ [])
    (plain : ∀ octet ∈ pattern, IsPlain octet) {bytes : Bytes} :
    pattern.map charOf <:+: (decodeLossy bytes).toList ↔ pattern <:+: bytes := by
  rw [decodeLossy_toList, infix_readLossy_iff nonempty plain State.isSound_start]

end TestDaemon.Utf8
