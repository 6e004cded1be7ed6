/-
# The number that digits denote

A numeral is read digit by digit, and given up as soon as what was read leaves the range. A further
digit never makes a number smaller, so that a numeral of digits is read exactly if the number that
it denotes as a whole is in the range.

A numeral that has something else behind its first digits is malformed, but that is noticed only
where the digits in front have not left the range already.
-/

import VisualNovel.Numeral

namespace VisualNovel.Numeral

variable {bound value : Nat} {exceeded : Reading} {finish : Nat → Int} {digits : List Char}
  {n : Int} {range : IntRange}

/-- Further digits make a number no smaller. -/
theorem le_ofDigitChars (digits : List Char) (value : Nat) :
    value ≤ Nat.ofDigitChars 10 digits value := by
  induction digits generalizing value with
  | nil => exact Nat.le_refl value
  | cons c digits ih =>
    rw [Nat.ofDigitChars_cons]
    have hrest := ih (10 * value + (c.toNat - '0'.toNat))
    omega

/-- The digits at the front are read, and what stands behind them only if they are in the range. -/
theorem readDigits_eq (hvalue : value ≤ bound) :
    readDigits bound exceeded finish value digits =
      if bound < Nat.ofDigitChars 10 (digits.takeWhile Text.isAsciiDigit) value then exceeded
      else if digits.all Text.isAsciiDigit then
        .value (finish (Nat.ofDigitChars 10 digits value))
      else .malformed := by
  induction digits generalizing value with
  | nil => exact (if_neg (Nat.not_lt.mpr hvalue)).symm
  | cons c digits ih =>
    have hnext : value * 10 + digitValue c = 10 * value + (c.toNat - '0'.toNat) := by
      rw [digitValue, Nat.mul_comm]
    simp only [readDigits, hnext]
    by_cases hdigit : Text.isAsciiDigit c = true
    · rw [if_pos hdigit, List.takeWhile_cons_of_pos hdigit, Nat.ofDigitChars_cons]
      by_cases hbound : bound < 10 * value + (c.toNat - '0'.toNat)
      · have hbeyond := le_ofDigitChars (digits.takeWhile Text.isAsciiDigit)
          (10 * value + (c.toNat - '0'.toNat))
        rw [if_pos hbound, if_pos (Nat.lt_of_lt_of_le hbound hbeyond)]
      · rw [if_neg hbound, ih (Nat.le_of_not_lt hbound)]
        simp [hdigit, Nat.ofDigitChars_cons]
    · have hhere : ¬ bound < Nat.ofDigitChars 10 [] value := Nat.not_lt.mpr hvalue
      rw [if_neg hdigit, List.takeWhile_cons_of_neg hdigit, if_neg hhere]
      simp [hdigit]

theorem takeWhile_isAsciiDigit (hdigits : ∀ c ∈ digits, Text.isAsciiDigit c = true) :
    digits.takeWhile Text.isAsciiDigit = digits := by
  have hwhole := @List.takeWhile_append_of_pos _ _ digits [] hdigits
  rwa [List.append_nil, List.takeWhile_nil, List.append_nil] at hwhole

/-- Digits are read as the number that they denote, unless that is beyond the bound. -/
theorem readDigits_eq_value_iff (hexceeded : ∀ n, exceeded ≠ .value n) (hvalue : value ≤ bound) :
    readDigits bound exceeded finish value digits = .value n ↔
      (∀ c ∈ digits, Text.isAsciiDigit c = true) ∧ Nat.ofDigitChars 10 digits value ≤ bound ∧
        finish (Nat.ofDigitChars 10 digits value) = n := by
  rw [readDigits_eq hvalue]
  by_cases hdigits : ∀ c ∈ digits, Text.isAsciiDigit c = true
  · rw [takeWhile_isAsciiDigit hdigits, if_pos (List.all_eq_true.mpr hdigits)]
    by_cases hbeyond : bound < Nat.ofDigitChars 10 digits value
    · simp [hbeyond, hexceeded, Nat.not_le.mpr hbeyond]
    · rw [if_neg hbeyond, Reading.value.injEq]
      exact ⟨fun hvalue => ⟨hdigits, Nat.le_of_not_lt hbeyond, hvalue⟩, fun hvalue => hvalue.2.2⟩
  · rw [if_neg (mt List.all_eq_true.mp hdigits)]
    simp only [hdigits, false_and, iff_false]
    split
    · exact hexceeded n
    · exact nofun

/-- A text that begins with no sign is read as digits. -/
theorem read_of_unsigned (hdigits : digits ≠ [])
    (hunsigned : ∀ c ∈ digits.head?, c ≠ '+' ∧ c ≠ '-') :
    read range digits = readDigits range.high.toNat .tooLarge (fun n => n) 0 digits := by
  obtain ⟨c, rest, rfl⟩ := List.exists_cons_of_ne_nil hdigits
  obtain ⟨hplus, hminus⟩ := hunsigned c rfl
  unfold read
  split <;> simp_all

/-- A text that begins with no sign denotes a number of an unsigned word exactly if it is of ASCII
digits and the number that they denote fits. -/
theorem inRange?_unsigned_eq_some_iff {bits : Nat} (hdigits : digits ≠ [])
    (hunsigned : ∀ c ∈ digits.head?, c ≠ '+' ∧ c ≠ '-') :
    inRange? (.unsigned bits) digits = some n ↔
      (∀ c ∈ digits, Text.isAsciiDigit c = true) ∧ Nat.ofDigitChars 10 digits 0 < Nat.pow 2 bits ∧
        (Nat.ofDigitChars 10 digits 0 : Int) = n := by
  have hhigh : (IntRange.unsigned bits).high.toNat = Nat.pow 2 bits - 1 := by
    simp only [IntRange.unsigned]
    omega
  have hpositive : 0 < Nat.pow 2 bits := Nat.two_pow_pos bits
  have hvalue : inRange? (.unsigned bits) digits = some n ↔
      read (.unsigned bits) digits = .value n := by
    unfold inRange?
    cases read (.unsigned bits) digits <;> simp
  rw [hvalue, read_of_unsigned hdigits hunsigned,
    readDigits_eq_value_iff (by rintro _ ⟨⟩) (Nat.zero_le _), hhigh,
    Nat.le_sub_one_iff_lt hpositive]

end VisualNovel.Numeral
