import TestDaemon.Timestamp.Calendar
import Mathlib.Algebra.Ring.Nat

/-! # Day numbers and dates

The year of a day is counted off in cycles of 400, 100, 4 and 1 years; the last cycle of 100 years and
the last year may be a day longer. So every day number is that of exactly the date that it is turned
into, and that date exists.
-/

namespace TestDaemon

namespace Calendar

/-! ## Years -/

/-- The cycles that have passed before a day, and the days since. -/
theorem exists_cycles (n : Int) : ∃ quadricentennials centuries quadrennials years day : Int,
    n = 146097 * quadricentennials + 36524 * centuries + 1461 * quadrennials + 365 * years + day ∧
      yearOfDay n = 400 * quadricentennials + 100 * centuries + 4 * quadrennials + years + 1 ∧
      (0 ≤ centuries ∧ centuries ≤ 3) ∧ (0 ≤ quadrennials ∧ quadrennials ≤ 24) ∧
      (0 ≤ years ∧ years ≤ 3) ∧ 0 ≤ day ∧
      (day < 365 ∨ day = 365 ∧ years = 3 ∧ (quadrennials ≠ 24 ∨ centuries = 3)) := by
  refine ⟨n / 146097, min (n % 146097 / 36524) 3,
    (n % 146097 - min (n % 146097 / 36524) 3 * 36524) / 1461,
    min ((n % 146097 - min (n % 146097 / 36524) 3 * 36524) % 1461 / 365) 3,
    (n % 146097 - min (n % 146097 / 36524) 3 * 36524) % 1461 -
      min ((n % 146097 - min (n % 146097 / 36524) 3 * 36524) % 1461 / 365) 3 * 365, ?_⟩
  simp only [yearOfDay]
  generalize cycle : n % 146097 = inQuadricentennial
  generalize centuries : min (inQuadricentennial / 36524) 3 = c
  generalize rest : inQuadricentennial - c * 36524 = inCentury
  generalize years : min (inCentury % 1461 / 365) 3 = y
  have inCycle : 0 ≤ inQuadricentennial ∧ inQuadricentennial < 146097 := by omega
  have fitC : 0 ≤ c ∧ c ≤ 3 := by omega
  have century : 0 ≤ inCentury ∧ (inCentury < 36524 ∨ inCentury = 36524 ∧ c = 3) := by omega
  have fitF : 0 ≤ inCentury / 1461 ∧ inCentury / 1461 ≤ 24 := by omega
  have fitY : 0 ≤ y ∧ y ≤ 3 := by omega
  refine ⟨by omega, trivial, fitC, fitF, fitY, by omega, ?_⟩
  by_cases last : inCentury % 1461 - y * 365 < 365
  · exact .inl last
  · exact .inr ⟨by omega, by omega, by omega⟩

theorem daysBeforeYear_cycles (quadricentennials : Int) {centuries quadrennials years : Int}
    (fitCenturies : 0 ≤ centuries ∧ centuries ≤ 3) (fitQuadrennials : 0 ≤ quadrennials ∧ quadrennials ≤ 24)
    (fitYears : 0 ≤ years ∧ years ≤ 3) :
    daysBeforeYear (400 * quadricentennials + 100 * centuries + 4 * quadrennials + years + 1) =
      146097 * quadricentennials + 36524 * centuries + 1461 * quadrennials + 365 * years := by
  unfold daysBeforeYear
  dsimp only
  omega

theorem isLeap_cycles (quadricentennials : Int) {centuries quadrennials years : Int}
    (fitCenturies : 0 ≤ centuries ∧ centuries ≤ 3) (fitQuadrennials : 0 ≤ quadrennials ∧ quadrennials ≤ 24)
    (fitYears : 0 ≤ years ∧ years ≤ 3) :
    isLeap (400 * quadricentennials + 100 * centuries + 4 * quadrennials + years + 1) ↔
      years = 3 ∧ (quadrennials ≠ 24 ∨ centuries = 3) := by
  simp only [isLeap, Bool.and_eq_true, Bool.or_eq_true, beq_iff_eq, bne_iff_ne]
  omega

theorem daysBeforeYear_mono {first second : Int} (ordered : first ≤ second) :
    daysBeforeYear first ≤ daysBeforeYear second := by
  unfold daysBeforeYear
  dsimp only
  omega

/-- The days of a year. -/
def yearLength (leap : Bool) : Nat := if leap then 366 else 365

theorem daysBeforeYear_succ (year : Int) :
    daysBeforeYear (year + 1) = daysBeforeYear year + yearLength (isLeap year) := by
  unfold yearLength daysBeforeYear
  dsimp only
  split
  · next leap =>
    simp only [isLeap, Bool.and_eq_true, Bool.or_eq_true, beq_iff_eq, bne_iff_ne] at leap
    omega
  · next common =>
    simp only [isLeap, Bool.and_eq_true, Bool.or_eq_true, beq_iff_eq, bne_iff_ne] at common
    omega

/-- A day lies in its year. -/
theorem yearOfDay_bounds (n : Int) :
    daysBeforeYear (yearOfDay n) ≤ n ∧
      n < daysBeforeYear (yearOfDay n) + yearLength (isLeap (yearOfDay n)) := by
  obtain ⟨q, c, f, y, day, parts, year, fitC, fitF, fitY, nonneg, fits⟩ := exists_cycles n
  have before := daysBeforeYear_cycles q fitC fitF fitY
  have leap := isLeap_cycles q fitC fitF fitY
  rw [← year] at before leap
  unfold yearLength
  split
  · omega
  · next common =>
    rw [leap] at common
    omega

/-! ## Months -/

/-- A day that lies within some months lies in one of them. -/
theorem monthAndDay_spec {lengths : List Nat} {day : Nat} (within : day < lengths.sum) (month : Nat) :
    ∃ index, ∃ inside : index < lengths.length,
      (monthAndDay lengths month day).1 = month + index ∧
        1 ≤ (monthAndDay lengths month day).2 ∧
        (monthAndDay lengths month day).2 ≤ lengths[index] ∧
        (lengths.take index).sum + (monthAndDay lengths month day).2 = day + 1 := by
  induction lengths generalizing month day with
  | nil => simp at within
  | cons length lengths ih =>
    rw [monthAndDay]
    rw [List.sum_cons] at within
    by_cases here : day < length
    · rw [if_pos here]
      refine ⟨0, by simp, ?_⟩
      simp only [List.getElem_cons_zero, List.take_zero, List.sum_nil]
      omega
    · rw [if_neg here]
      have later : day - length < lengths.sum := by omega
      obtain ⟨index, inside, same, first, last, sum⟩ := ih later (month + 1)
      refine ⟨index + 1, by simpa using inside, by omega, first, by simpa using last, ?_⟩
      simp only [List.take_succ_cons, List.sum_cons]
      omega

theorem sum_monthLengths (leap : Bool) : (monthLengths leap).sum = yearLength leap := by
  cases leap <;> rfl

theorem monthLength_le (year : Int) (month : Nat) : monthLength year month ≤ 31 := by
  have bounded : ∀ length ∈ monthLengths (isLeap year), length ≤ 31 := by
    cases isLeap year <;> decide
  rw [monthLength]
  cases found : (monthLengths (isLeap year))[month - 1]? with
  | none => exact Nat.zero_le 31
  | some length => exact bounded length (List.mem_of_getElem? found)

end Calendar

namespace Date

open Calendar

/-- A day number is that of its date, and its date exists. -/
theorem ofDayNumber_spec (number : Int) :
    (ofDayNumber number).Valid ∧ (ofDayNumber number).dayNumber = number := by
  obtain ⟨before, after⟩ := yearOfDay_bounds (number + epoch)
  have date : ofDayNumber number =
      ⟨yearOfDay (number + epoch),
        (monthAndDay (monthLengths (isLeap (yearOfDay (number + epoch)))) 1
          (number + epoch - daysBeforeYear (yearOfDay (number + epoch))).toNat).1,
        (monthAndDay (monthLengths (isLeap (yearOfDay (number + epoch)))) 1
          (number + epoch - daysBeforeYear (yearOfDay (number + epoch))).toNat).2⟩ := rfl
  generalize yearOfDay (number + epoch) = year at before after date
  have within : (number + epoch - daysBeforeYear year).toNat < (monthLengths (isLeap year)).sum := by
    rw [sum_monthLengths]
    omega
  obtain ⟨index, inside, month, first, last, sum⟩ := monthAndDay_spec within 1
  rw [month] at date
  generalize (monthAndDay (monthLengths (isLeap year)) 1
    (number + epoch - daysBeforeYear year).toNat).2 = day at date first last sum
  have place : 1 + index - 1 = index := by omega
  have length : monthLength year (1 + index) = (monthLengths (isLeap year))[index] := by
    rw [monthLength, place, List.getElem?_eq_getElem inside, Option.getD_some]
  have passed : daysBeforeMonth (isLeap year) (1 + index) =
      ((monthLengths (isLeap year)).take index).sum := by
    rw [daysBeforeMonth, place, List.sum_eq_foldl]
  have twelve : index < 12 := inside
  rw [date]
  constructor
  · refine ⟨?_, ?_, first, by rw [length]; exact last⟩
    · show 1 ≤ 1 + index
      omega
    · show 1 + index ≤ 12
      omega
  · simp only [dayNumber, passed]
    omega

/-- The year of a day number lies between the years whose days surround it. -/
theorem ofDayNumber_year {number : Int} {low high : Int}
    (after : daysBeforeYear low ≤ number + epoch) (before : number + epoch < daysBeforeYear (high + 1)) :
    low ≤ (ofDayNumber number).year ∧ (ofDayNumber number).year ≤ high := by
  obtain ⟨first, last⟩ := yearOfDay_bounds (number + epoch)
  show low ≤ yearOfDay (number + epoch) ∧ yearOfDay (number + epoch) ≤ high
  generalize yearOfDay (number + epoch) = year at first last
  constructor
  · refine Int.not_lt.mp fun early => ?_
    have := daysBeforeYear_mono (show year + 1 ≤ low by omega)
    have := daysBeforeYear_succ year
    omega
  · refine Int.not_lt.mp fun late => ?_
    have := daysBeforeYear_mono (show high + 1 ≤ year by omega)
    omega

end Date

end TestDaemon
