/-! # Steps that can fail

Something that is made of fallible steps succeeds if each of them does, with what the one before it has
given. What every step of a row keeps is therefore kept by a row that succeeds.
-/

namespace TestDaemon

variable {α β ε ε' : Type}

theorem bind_eq_ok_iff {made : Except ε α} {step : α → Except ε β} {value : β} :
    made >>= step = .ok value ↔ ∃ given, made = .ok given ∧ step given = .ok value := by
  cases made with
  | error error => exact ⟨nofun, nofun⟩
  | ok given =>
    constructor
    · intro ended
      exact ⟨given, rfl, ended⟩
    · rintro ⟨other, same, ended⟩
      obtain rfl := Except.ok.inj same
      exact ended

theorem map_eq_ok_iff {made : Except ε α} {f : α → β} {value : β} :
    made.map f = .ok value ↔ ∃ given, made = .ok given ∧ f given = value := by
  cases made with
  | error error => exact ⟨nofun, nofun⟩
  | ok given => simp [Except.map]

theorem map_eq_error_iff {made : Except ε α} {f : α → β} {error : ε} :
    made.map f = .error error ↔ made = .error error := by
  cases made <;> simp [Except.map]

theorem mapError_eq_ok_iff {made : Except ε α} {wrap : ε → ε'} {value : α} :
    made.mapError wrap = .ok value ↔ made = .ok value := by
  cases made with
  | error error => exact ⟨nofun, nofun⟩
  | ok given =>
    constructor
    · rintro ⟨⟩
      rfl
    · rintro ⟨⟩
      rfl

theorem toOption_eq_some_iff {made : Except ε α} {value : α} :
    made.toOption = some value ↔ made = .ok value := by
  cases made <;> simp [Except.toOption]

/-! ## Rows of steps -/

variable {step : α → β → Except ε α} {start last : α} {item : β} {items : List β}

theorem foldlM_cons_eq_ok_iff :
    (item :: items).foldlM step start = .ok last ↔
      ∃ next, step start item = .ok next ∧ items.foldlM step next = .ok last := by
  rw [List.foldlM_cons, bind_eq_ok_iff]

/-- What every step keeps holds behind a row of steps that all succeed. -/
theorem keeps_of_foldlM (kept : α → Prop)
    (keeps : ∀ state item next, kept state → step state item = .ok next → kept next)
    (begins : kept start) (folded : items.foldlM step start = .ok last) : kept last := by
  induction items generalizing start with
  | nil =>
    cases folded
    exact begins
  | cons item items ih =>
    obtain ⟨next, first, rest⟩ := foldlM_cons_eq_ok_iff.mp folded
    exact ih (keeps start item next begins first) rest

end TestDaemon
