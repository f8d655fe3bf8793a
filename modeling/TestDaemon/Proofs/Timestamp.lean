import TestDaemon.Proofs.Calendar
import TestDaemon.Timestamp.Parser
import TestDaemon.Timestamp.Printer

/-! # Reading written timestamps

Every number of a written timestamp ends at a mark that is no digit, so each field is read back as it was
written: the date, whose year may carry a sign, the time, where second 60 stands for the leap second, and
the fraction, which loses only zeros. So a timestamp comes back from its text.
-/

namespace TestDaemon.Timestamp

/-! ## Numbers -/

/-- Digits that write a number. -/
structure Numeral (run : List Char) (value : Nat) : Prop where
  nonempty : run ≠ []
  digits : ∀ c ∈ run, c.isDigit
  value_eq : digitsValue run = value

theorem length_digits (width n : Nat) : (digits width n).length = width := by
  induction width generalizing n with
  | zero => rfl
  | succ width ih => simp [digits, ih]

theorem numeral_digits {width n : Nat} (positive : 0 < width) (fits : n < 10 ^ width) :
    Numeral (digits width n) n := by
  induction width generalizing n with
  | zero => omega
  | succ width ih =>
    have last : n % 10 < 10 := Nat.mod_lt _ (by decide)
    have digit : (Nat.digitChar (n % 10)).isDigit := by simp [last]
    have value : (Nat.digitChar (n % 10)).toNat - '0'.toNat = n % 10 :=
      Nat.toNat_digitChar_sub_48_of_lt_ten last
    cases width with
    | zero =>
      refine ⟨by simp [digits], by simpa [digits] using digit, ?_⟩
      have : n % 10 = n := Nat.mod_eq_of_lt (by omega)
      simp only [digits, List.nil_append, digitsValue, List.foldl_cons, List.foldl_nil, value]
      omega
    | succ width =>
      rw [Nat.pow_succ] at fits
      have fitsFront : n / 10 < 10 ^ (width + 1) := by omega
      obtain ⟨_, front, frontValue⟩ := ih (by omega) fitsFront
      rw [digits]
      refine ⟨by simp, fun c member => ?_, ?_⟩
      · rcases List.mem_append.mp member with inFront | atEnd
        · exact front c inFront
        · rw [List.mem_singleton.mp atEnd]
          exact digit
      · rw [digitsValue] at frontValue ⊢
        rw [List.foldl_append, frontValue, List.foldl_cons, List.foldl_nil, value]
        omega

theorem numeral_toDigits (n : Nat) : Numeral (Nat.toDigits 10 n) n :=
  ⟨Nat.toDigits_ne_nil, fun _ member => Nat.isDigit_of_mem_toDigits (by decide) (by decide) member,
    Nat.ofDigitChars_toDigits (by decide) (by decide)⟩

theorem isBlank_of_isDigit {c : Char} (digit : c.isDigit) : isBlank c = false := by
  have bounds : 48 ≤ c.toNat ∧ c.toNat ≤ 57 := by
    simpa [Char.isDigit, UInt32.le_iff_toNat_le] using digit
  simp only [isBlank, Bool.or_eq_false_iff, Bool.and_eq_false_iff, decide_eq_false_iff_not,
    beq_eq_false_iff_ne]
  omega

theorem skipBlanks_cons {c : Char} (visible : isBlank c = false) (rest : List Char) :
    skipBlanks (c :: rest) = c :: rest := by
  rw [skipBlanks, List.dropWhile_cons_of_neg (by simp [visible])]

theorem Numeral.skipBlanks {run : List Char} {value : Nat} (numeral : Numeral run value)
    (rest : List Char) : skipBlanks (run ++ rest) = run ++ rest := by
  obtain ⟨nonempty, digits, _⟩ := numeral
  cases run with
  | nil => contradiction
  | cons c run =>
    exact skipBlanks_cons (isBlank_of_isDigit (digits c (List.mem_cons_self ..))) (run ++ rest)

/-- The digits at the front end at a mark. -/
theorem Numeral.takeWhile {run : List Char} {value : Nat} (numeral : Numeral run value) {mark : Char}
    (ends : mark.isDigit = false) (rest : List Char) :
    (run ++ mark :: rest).takeWhile Char.isDigit = run := by
  rw [List.takeWhile_append_of_pos numeral.digits, List.takeWhile_cons_of_neg (by simp [ends]),
    List.append_nil]

/-- A number is read up to the mark behind it. -/
theorem Numeral.readNumber {run : List Char} {value : Nat} (numeral : Numeral run value)
    (width : Option Nat) (fits : ∀ most, width = some most → run.length ≤ most)
    (small : value < numberLimit) {mark : Char} (ends : mark.isDigit = false) (rest : List Char) :
    readNumber width (run ++ mark :: rest) = .ok (value, mark :: rest) := by
  have bounded : ¬ numberLimit ≤ digitsValue run := by
    rw [numeral.value_eq]
    exact Nat.not_le.mpr small
  have behind : (run ++ mark :: rest).drop run.length = mark :: rest := List.drop_left
  have run_eq := numeral.takeWhile ends rest
  obtain ⟨nonempty, _, value_eq⟩ := numeral
  obtain ⟨c, later, rfl⟩ := List.exists_cons_of_ne_nil nonempty
  cases width with
  | none =>
    simp only [Timestamp.readNumber, run_eq]
    rw [if_neg bounded, value_eq, behind]
  | some most =>
    have taken : (c :: later).take most = c :: later := List.take_of_length_le (fits most rfl)
    simp only [Timestamp.readNumber, run_eq, taken]
    rw [if_neg bounded, value_eq, behind]

/-! ## Fields -/

theorem readMark_here {mark : Char} (visible : isBlank mark = false) (rest : List Char) :
    readMark mark (mark :: rest) = .ok rest := by
  simp [readMark, skipBlanks_cons visible]

theorem readField_digits {low high n : Nat} (above : low ≤ n) (below : n ≤ high) (fits : n < 100)
    {mark : Char} (ends : mark.isDigit = false) (rest : List Char) :
    readField low high (digits 2 n ++ mark :: rest) = .ok (n, mark :: rest) := by
  have numeral : Numeral (digits 2 n) n := numeral_digits (by decide) fits
  have limit : numberLimit = 9223372036854775808 := rfl
  have read := numeral.readNumber (some 2) (by simp [length_digits]) (by omega) ends rest
  rw [readField, numeral.skipBlanks, read]
  simp [bind, Except.bind, above, below, pure, Except.pure]

/-- The digits of a year behind a sign. -/
theorem numeral_signedYear (n : Nat) :
    Numeral (if n < 10000 then digits 4 n else Nat.toDigits 10 n) n := by
  split
  · exact numeral_digits (by decide) (by omega)
  · exact numeral_toDigits n

/-- Whether a year can be read at all. -/
def YearFits (year : Int) : Prop := Int32.minValue.toInt ≤ year ∧ year ≤ Int32.maxValue.toInt

theorem YearFits.natAbs_lt {year : Int} (fits : YearFits year) : year.natAbs < numberLimit := by
  have limit : numberLimit = 9223372036854775808 := rfl
  have least : Int32.minValue.toInt = -2147483648 := rfl
  have most : Int32.maxValue.toInt = 2147483647 := rfl
  obtain ⟨above, below⟩ := fits
  omega

section

variable {run : List Char} {value : Nat} (numeral : Numeral run value) (small : value < numberLimit)
include numeral small

/-- The digits of a year without a sign: none of them is one. -/
theorem readYear_plain (short : run.length ≤ 4) (fits : YearFits value) (rest : List Char) :
    readYear (run ++ '-' :: rest) = .ok (value, '-' :: rest) := by
  have read := numeral.readNumber (some 4) (by simpa using short) small
    (show '-'.isDigit = false by decide) rest
  have front := numeral.skipBlanks ('-' :: rest)
  obtain ⟨c, later, rfl⟩ := List.exists_cons_of_ne_nil numeral.nonempty
  have digit := numeral.digits c (List.mem_cons_self ..)
  simp only [List.cons_append] at front read ⊢
  simp only [readYear, front]
  split
  · next same =>
    obtain ⟨rfl, _⟩ := List.cons_eq_cons.mp same
    exact absurd digit (by decide)
  · next same =>
    obtain ⟨rfl, _⟩ := List.cons_eq_cons.mp same
    exact absurd digit (by decide)
  · simp only [read, bind, Except.bind, Except.map, pure, Except.pure]
    exact if_pos fits

theorem readYear_minus (fits : YearFits (-value)) (rest : List Char) :
    readYear ('-' :: (run ++ '-' :: rest)) = .ok (-value, '-' :: rest) := by
  have read := numeral.readNumber none (by simp) small (show '-'.isDigit = false by decide) rest
  have front := skipBlanks_cons (show isBlank '-' = false by decide) (run ++ '-' :: rest)
  simp only [readYear, front, read, bind, Except.bind, Except.map, pure, Except.pure]
  exact if_pos fits

theorem readYear_plus (fits : YearFits value) (rest : List Char) :
    readYear ('+' :: (run ++ '-' :: rest)) = .ok (value, '-' :: rest) := by
  have read := numeral.readNumber none (by simp) small (show '-'.isDigit = false by decide) rest
  have front := skipBlanks_cons (show isBlank '+' = false by decide) (run ++ '-' :: rest)
  simp only [readYear, front, read, bind, Except.bind, Except.map, pure, Except.pure]
  exact if_pos fits

end

theorem readYear_yearChars {year : Int} (fits : YearFits year) (rest : List Char) :
    readYear (yearChars year ++ '-' :: rest) = .ok (year, '-' :: rest) := by
  have small := fits.natAbs_lt
  have signed := numeral_signedYear year.natAbs
  rw [yearChars]
  by_cases plain : 0 ≤ year ∧ year ≤ 9999
  · have numeral : Numeral (digits 4 year.toNat) year.toNat := numeral_digits (by decide) (by omega)
    have value : (year.toNat : Int) = year := by omega
    have read := readYear_plain numeral (by omega) (by rw [length_digits]) (by rwa [value]) rest
    rwa [if_pos plain, ← value]
  · rw [if_neg plain]
    by_cases negative : year < 0
    · have value : -(year.natAbs : Int) = year := by omega
      have read := readYear_minus signed small (by rwa [value]) rest
      rw [value] at read
      rwa [if_pos negative]
    · have value : (year.natAbs : Int) = year := by omega
      have read := readYear_plus signed small (by rwa [value]) rest
      rw [value] at read
      rwa [if_neg negative]

/-- A fraction with its last zeros cut off. -/
theorem readFraction_digits {width n : Nat} (positive : 0 < width) (most : width ≤ 9)
    (fits : n < 10 ^ width) (rest : List Char) :
    readFraction ('.' :: digits width n ++ 'Z' :: rest) = .ok (n * 10 ^ (9 - width), 'Z' :: rest) := by
  have limit : numberLimit = 9223372036854775808 := rfl
  have small : n < numberLimit := by
    have : 10 ^ width ≤ 10 ^ 9 := Nat.pow_le_pow_right (by decide) most
    omega
  have numeral : Numeral (digits width n) n := numeral_digits positive fits
  have ends : 'Z'.isDigit = false := by decide
  have within : ∀ w, some 9 = some w → (digits width n).length ≤ w := by
    intro w same
    obtain rfl := Option.some.inj same
    rw [length_digits]
    exact most
  have read := numeral.readNumber (some 9) within small ends rest
  have kept : ((digits width n ++ 'Z' :: rest).takeWhile Char.isDigit).take 9 = digits width n := by
    rw [numeral.takeWhile ends, List.take_of_length_le (within 9 rfl)]
  simp only [List.cons_append, readFraction, read, kept, length_digits]
  rfl

theorem readFraction_fractionChars {nanos : Nat} (fits : nanos < 1000000000) (rest : List Char) :
    readFraction (fractionChars nanos ++ 'Z' :: rest) = .ok (nanos, 'Z' :: rest) := by
  unfold fractionChars
  split
  · next none =>
    rw [none]
    rfl
  · split
    · next millis =>
      have value : nanos / 1000000 * 10 ^ (9 - 3) = nanos := by omega
      rw [readFraction_digits (by decide) (by decide) (by omega), value]
    · split
      · next micros =>
        have value : nanos / 1000 * 10 ^ (9 - 6) = nanos := by omega
        rw [readFraction_digits (by decide) (by decide) (by omega), value]
      · have value : nanos * 10 ^ (9 - 9) = nanos := by omega
        rw [readFraction_digits (by decide) (by decide) (by omega), value]

/-- A mark stands in front of a fraction, or behind its absence. -/
theorem fractionChars_mark (nanos : Nat) (rest : List Char) :
    ∃ mark more, fractionChars nanos ++ 'Z' :: rest = mark :: more ∧ mark.isDigit = false := by
  unfold fractionChars
  split
  · exact ⟨'Z', _, rfl, by decide⟩
  · split
    · exact ⟨'.', _, rfl, by decide⟩
    · split
      · exact ⟨'.', _, rfl, by decide⟩
      · exact ⟨'.', _, rfl, by decide⟩

/-! ## Dates and times -/

theorem readDate_written {date : Date} (valid : date.Valid) (fits : YearFits date.year)
    (rest : List Char) :
    readDate (yearChars date.year ++ '-' :: (digits 2 date.month ++ '-' :: (digits 2 date.day ++ 'T' :: rest))) =
      .ok (date, 'T' :: rest) := by
  obtain ⟨firstMonth, lastMonth, firstDay, lastDay⟩ := valid
  have last : date.day ≤ 31 := Nat.le_trans lastDay (Calendar.monthLength_le date.year date.month)
  have dash : isBlank '-' = false := by decide
  have month := readField_digits firstMonth lastMonth (by omega) (show '-'.isDigit = false by decide)
    (digits 2 date.day ++ 'T' :: rest)
  have day := readField_digits firstDay last (by omega) (show 'T'.isDigit = false by decide) rest
  simp only [readDate, readYear_yearChars fits, bind, Except.bind, readMark_here dash, month, day]
  rfl

/-- A time of a day, perhaps in the leap second behind the last second of a minute. -/
theorem readTime_written {time leap nanos : Nat} (day : time < 86400) (short : leap ≤ 1)
    (last : leap = 1 → time % 60 = 59) (fits : nanos < 1000000000) (rest : List Char) :
    readTime (digits 2 (time / 3600) ++ ':' :: (digits 2 (time / 60 % 60) ++
        ':' :: (digits 2 (time % 60 + leap) ++ (fractionChars nanos ++ 'Z' :: rest)))) =
      .ok ((time, leap * 1000000000 + nanos), 'Z' :: rest) := by
  obtain ⟨mark, more, shape, ends⟩ := fractionChars_mark nanos rest
  have colon : ':'.isDigit = false := by decide
  have visible : isBlank ':' = false := by decide
  have hour := readField_digits (Nat.zero_le (time / 3600)) (show time / 3600 ≤ 23 by omega) (by omega)
    colon (digits 2 (time / 60 % 60) ++ ':' :: (digits 2 (time % 60 + leap) ++ mark :: more))
  have minute := readField_digits (Nat.zero_le (time / 60 % 60)) (show time / 60 % 60 ≤ 59 by omega)
    (by omega) colon (digits 2 (time % 60 + leap) ++ mark :: more)
  have second := readField_digits (Nat.zero_le (time % 60 + leap)) (show time % 60 + leap ≤ 60 by omega)
    (by omega) ends more
  have fraction := readFraction_fractionChars fits rest
  rw [shape] at fraction ⊢
  simp only [readTime, hour, bind, Except.bind, readMark_here visible, minute, second, fraction]
  by_cases leaps : time % 60 + leap = 60
  · have one : leap = 1 := by omega
    have whole : time / 3600 * 3600 + time / 60 % 60 * 60 + 59 = time := by omega
    rw [if_pos leaps]
    simp only [whole, one, Nat.one_mul]
    rfl
  · obtain rfl : leap = 0 := by omega
    have whole : time / 3600 * 3600 + time / 60 % 60 * 60 + (time % 60 + 0) = time := by omega
    rw [if_neg leaps]
    simp only [whole, Nat.zero_mul]
    rfl

/-! ## Timestamps -/

theorem of?_self (timestamp : Timestamp) :
    of? timestamp.second timestamp.nanos = some timestamp := by
  rw [of?, dif_pos timestamp.nanos_lt, dif_pos timestamp.leap_last, dif_pos timestamp.first_le,
    dif_pos timestamp.le_last]

/-- The date of a timestamp lies in the years that timestamps are read in. -/
theorem year_bounds (timestamp : Timestamp) :
    firstYear ≤ (Date.ofDayNumber (timestamp.second / 86400)).year ∧
      (Date.ofDayNumber (timestamp.second / 86400)).year ≤ lastYear := by
  have first := timestamp.first_le
  have last := timestamp.le_last
  have firstDay : Calendar.daysBeforeYear firstYear =
      (Date.mk (-262143) 1 1).dayNumber + Calendar.epoch := by decide
  have lastDay : Calendar.daysBeforeYear (lastYear + 1) =
      (Date.mk 262142 12 31).dayNumber + Calendar.epoch + 1 := by decide
  rw [firstSecond] at first
  rw [lastSecond] at last
  exact Date.ofDayNumber_year (by omega) (by omega)

/-- A timestamp is read back from its text. -/
theorem parseChars_toChars (timestamp : Timestamp) : parseChars timestamp.toChars = .ok timestamp := by
  obtain ⟨valid, dayNumber⟩ := Date.ofDayNumber_spec (timestamp.second / 86400)
  obtain ⟨above, below⟩ := timestamp.year_bounds
  have early : firstYear = -262143 := rfl
  have late : lastYear = 262142 := rfl
  have fits : YearFits (Date.ofDayNumber (timestamp.second / 86400)).year := by
    have least : Int32.minValue.toInt = -2147483648 := rfl
    have most : Int32.maxValue.toInt = 2147483647 := rfl
    exact ⟨by omega, by omega⟩
  have nanos := timestamp.nanos_lt
  have leaps := timestamp.leap_last
  have inDay : timestamp.secondOfDay = timestamp.second % 86400 := rfl
  have day : timestamp.secondOfDay.toNat < 86400 := by omega
  have time := readTime_written day (show timestamp.nanos / 1000000000 ≤ 1 by omega) (by omega)
    (Nat.mod_lt timestamp.nanos (by decide)) []
  have second : timestamp.second / 86400 * 86400 + timestamp.secondOfDay.toNat - 0 = timestamp.second := by
    omega
  have nano : timestamp.nanos / 1000000000 * 1000000000 + timestamp.nanos % 1000000000 =
      timestamp.nanos := by omega
  simp only [toChars, List.append_assoc, List.cons_append, parseChars, bind, Except.bind,
    readDate_written valid fits]
  have separator (rest : List Char) : readSeparator ('T' :: rest) = .ok rest := rfl
  have zone : readZone (skipBlanks ['Z']) = .ok (0, []) := rfl
  have placed : ofLocal (Date.ofDayNumber (timestamp.second / 86400))
      (timestamp.secondOfDay.toNat, timestamp.nanos) 0 = .ok timestamp := by
    rw [ofLocal, if_neg (by simp [valid]; omega), if_neg (by decide), dayNumber, second, of?_self]
  simp only [separator, time, zone, nano]
  exact placed

theorem parse_toChars (timestamp : Timestamp) :
    parse (String.ofList timestamp.toChars) = .ok timestamp := by
  rw [parse, String.toList_ofList, parseChars_toChars]

end TestDaemon.Timestamp
