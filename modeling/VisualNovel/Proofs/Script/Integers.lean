/-
# What any text counts as

A parameter is read as an integer whatever is written there, and there are three things that it may
count as. An ASCII numeral, with or without a sign and of any length, counts as its integer, moved
to the nearer end of the range. A text that is no numeral counts as zero, but only as long as the
digits in front of its first other character stay in the range. Where these have left the range
already, nothing behind them is looked at any more, and the text counts as the end of the range.

That zero is a number of the range is all that is asked of the range here. The words that parameters
are read as are named at the end.
-/

import VisualNovel.Proofs.Decimal

namespace VisualNovel

open Text

namespace IntRange

variable {range : IntRange} {n : Int}

/-- The number is in the range. -/
def Contains (range : IntRange) (n : Int) : Prop := range.low ≤ n ∧ n ≤ range.high

instance (range : IntRange) (n : Int) : Decidable (range.Contains n) :=
  inferInstanceAs (Decidable (_ ∧ _))

/-- A number of the range is its own nearest one. -/
theorem clamp_of_contains (hcontains : range.Contains n) : range.clamp n = n := by
  unfold Contains at hcontains
  simp only [clamp]
  omega

/-- The ranges of the words that a parameter can be read as. -/
def words : List IntRange :=
  [.unsigned 8, .unsigned 16, .unsigned 32, .unsigned 64, .signed 32, .signed 64]

theorem hasZero_of_mem_words (hword : range ∈ words) : range.HasZero := by
  have hall : ∀ range ∈ words, range.HasZero := by decide
  exact hall range hword

end IntRange

namespace Numeral

/-- The text without a sign at its front. -/
def behindSign : List Char → List Char
  | '+' :: rest | '-' :: rest => rest
  | text => text

/-- The sign at the front of the text, which is positive where there is none. -/
def signOf : List Char → Int
  | '-' :: _ => -1
  | _ => 1

/-- The text is an ASCII numeral, with or without a sign. -/
structure IsInteger (text : List Char) : Prop where
  nonempty : behindSign text ≠ []
  digits : ∀ c ∈ behindSign text, isAsciiDigit c = true

instance (text : List Char) : Decidable (IsInteger text) :=
  let : Decidable (∀ c ∈ behindSign text, isAsciiDigit c = true) :=
    List.decidableBAll (fun c => isAsciiDigit c = true) (behindSign text)
  decidable_of_iff (behindSign text ≠ [] ∧ ∀ c ∈ behindSign text, isAsciiDigit c = true)
    ⟨fun ⟨hnonempty, hdigits⟩ => ⟨hnonempty, hdigits⟩, fun ⟨hnonempty, hdigits⟩ =>
      ⟨hnonempty, hdigits⟩⟩

/-- The integer that such a numeral denotes. -/
def integer (text : List Char) : Int := signOf text * Nat.ofDigitChars 10 (behindSign text) 0

/-- The integer that the text denotes in front of its first character that is no digit. -/
def leading (text : List Char) : Int :=
  signOf text * Nat.ofDigitChars 10 ((behindSign text).takeWhile isAsciiDigit) 0

theorem IsInteger.leading_eq {text : List Char} (hinteger : IsInteger text) :
    leading text = integer text := by
  rw [leading, integer, takeWhile_isAsciiDigit hinteger.digits]

variable {range : IntRange} {digits text : List Char}

/-- In each direction digits are read until they have left the range. If they never leave it, they
count only if nothing else stands behind them. -/
theorem settled_readDigits {bound : Nat} {exceeded : Reading} {finish : Nat → Int}
    (hwithin : ∀ n ≤ bound, range.Contains (finish n))
    (hbeyond : ∀ n, bound < n →
      ¬ range.Contains (finish n) ∧ exceeded.settled range = range.clamp (finish n)) :
    (readDigits bound exceeded finish 0 digits).settled range =
      if digits.all isAsciiDigit ∨
          ¬ range.Contains (finish (Nat.ofDigitChars 10 (digits.takeWhile isAsciiDigit) 0)) then
        range.clamp (finish (Nat.ofDigitChars 10 (digits.takeWhile isAsciiDigit) 0))
      else 0 := by
  rw [readDigits_eq (Nat.zero_le bound)]
  by_cases hleft : bound < Nat.ofDigitChars 10 (digits.takeWhile isAsciiDigit) 0
  · obtain ⟨hout, hexceeded⟩ := hbeyond _ hleft
    rw [if_pos hleft, if_pos (.inr hout), hexceeded]
  · have hin := hwithin _ (Nat.le_of_not_lt hleft)
    rw [if_neg hleft]
    by_cases hall : digits.all isAsciiDigit
    · rw [if_pos hall, if_pos (.inl hall), IntRange.clamp_of_contains hin,
        takeWhile_isAsciiDigit (List.all_eq_true.mp hall)]
      rfl
    · rw [if_neg hall, if_neg (not_or.mpr ⟨hall, not_not.mpr hin⟩)]
      rfl

/-- A plus sign is read over. A sign alone counts as zero, as no digits would. -/
theorem clamped_plus (range : IntRange) (digits : List Char) :
    clamped range ('+' :: digits) =
      (readDigits range.high.toNat .tooLarge (fun n => n) 0 digits).settled range := by
  cases digits <;> rfl

theorem clamped_minus (digits : List Char) (hbelow : range.low < 0) :
    clamped range ('-' :: digits) =
      (readDigits (-range.low).toNat .tooSmall (fun n => -n) 0 digits).settled range := by
  cases digits with
  | nil => rfl
  | cons c rest => simp [clamped_eq_settled, read, hbelow]

/-- Where there are no numbers below zero, there is no minus sign either. -/
theorem clamped_minus_of_nonneg (digits : List Char) (hbelow : ¬ range.low < 0) :
    clamped range ('-' :: digits) = 0 := by
  cases digits with
  | nil => rfl
  | cons c rest => simp [clamped_eq_settled, read, hbelow, Reading.settled]

theorem clamped_of_unsigned (hunsigned : ∀ c ∈ text.head?, c ≠ '+' ∧ c ≠ '-') :
    clamped range text =
      (readDigits range.high.toNat .tooLarge (fun n => n) 0 text).settled range := by
  cases text with
  | nil => rfl
  | cons c rest => rw [clamped_eq_settled, read_of_unsigned (List.cons_ne_nil c rest) hunsigned]

/-- A text begins with a plus sign, with a minus sign, or with neither. -/
theorem sign_cases (text : List Char) :
    (∃ rest, text = '+' :: rest) ∨ (∃ rest, text = '-' :: rest) ∨
      ∀ c ∈ text.head?, c ≠ '+' ∧ c ≠ '-' := by
  cases text with
  | nil => exact .inr (.inr nofun)
  | cons c rest =>
    by_cases hplus : c = '+'
    · exact .inl ⟨rest, by rw [hplus]⟩
    · by_cases hminus : c = '-'
      · exact .inr (.inl ⟨rest, by rw [hminus]⟩)
      · refine .inr (.inr fun d hd => ?_)
        cases hd
        exact ⟨hplus, hminus⟩

theorem sign_of_unsigned (hunsigned : ∀ c ∈ text.head?, c ≠ '+' ∧ c ≠ '-') :
    behindSign text = text ∧ signOf text = 1 := by
  cases text with
  | nil => exact ⟨rfl, rfl⟩
  | cons c rest =>
    obtain ⟨hplus, hminus⟩ := hunsigned c rfl
    exact ⟨by simp [behindSign, hplus, hminus], by simp [signOf, hminus]⟩

/-- A text counts as the integer at its front if nothing stands behind it, or if that integer has
left the range, and as zero otherwise. -/
theorem clamped_eq_leading (hzero : range.HasZero) (text : List Char) :
    clamped range text =
      if (behindSign text).all isAsciiDigit ∨ ¬ range.Contains (leading text) then
        range.clamp (leading text)
      else 0 := by
  unfold IntRange.HasZero at hzero
  -- Upwards the digits are read alike, with a plus sign and without.
  have hupwards (digits : List Char) :
      (readDigits range.high.toNat .tooLarge (fun n => n) 0 digits).settled range =
        if digits.all isAsciiDigit ∨
            ¬ range.Contains (1 * Nat.ofDigitChars 10 (digits.takeWhile isAsciiDigit) 0) then
          range.clamp (1 * Nat.ofDigitChars 10 (digits.takeWhile isAsciiDigit) 0)
        else 0 := by
    rw [Int.one_mul]
    apply settled_readDigits
    · intro n hn
      simp only [IntRange.Contains]
      omega
    · intro n hn
      simp only [IntRange.Contains, IntRange.clamp, Reading.settled]
      omega
  rcases sign_cases text with ⟨rest, rfl⟩ | ⟨rest, rfl⟩ | hunsigned
  · rw [clamped_plus, hupwards]
    rfl
  · have hleading : leading ('-' :: rest) =
        -(Nat.ofDigitChars 10 (rest.takeWhile isAsciiDigit) 0 : Int) := Int.neg_one_mul _
    rw [hleading]
    by_cases hbelow : range.low < 0
    · rw [clamped_minus rest hbelow]
      apply settled_readDigits
      · intro n hn
        simp only [IntRange.Contains]
        omega
      · intro n hn
        simp only [IntRange.Contains, IntRange.clamp, Reading.settled]
        omega
    · -- The range ends at zero, so that a number below it is moved there.
      have hend :
          range.clamp (-(Nat.ofDigitChars 10 (rest.takeWhile isAsciiDigit) 0 : Int)) = 0 := by
        simp only [IntRange.clamp]
        omega
      rw [clamped_minus_of_nonneg rest hbelow, hend, ite_self]
  · obtain ⟨hbehind, hsign⟩ := sign_of_unsigned hunsigned
    rw [clamped_of_unsigned hunsigned, hupwards, leading, hbehind, hsign]

/-- With no digits at its front, a text counts as zero. -/
theorem leading_of_nil (hnil : behindSign text = []) : leading text = 0 := by
  rw [leading, hnil]
  exact Int.mul_zero _

end Numeral

namespace Script.Parameter

open Numeral

/-- A blank text counts as zero like a missing one. -/
theorem number_some_eq_clamped (range : IntRange) (text : List Char) :
    number range (some text) = clamped range (trim text) := by
  unfold number visible?
  rw [Option.bind_some, Text.visible?]
  by_cases hblank : trim text = []
  · simp only [hblank]
    rfl
  · simp [hblank]

/-- Whatever text a parameter is and whatever word it is read as, an ASCII numeral with or without a
sign counts as its integer, moved to the nearer end of the range. Any other text counts as zero if
the integer at its front is in the range, and as the end of the range beyond which that integer is
otherwise. -/
theorem number_some_eq (text : List Char) :
    ∀ range ∈ IntRange.words,
      (IsInteger (trim text) → number range (some text) = range.clamp (integer (trim text))) ∧
      (¬ IsInteger (trim text) → number range (some text) =
        if range.Contains (leading (trim text)) then 0 else range.clamp (leading (trim text))) := by
  intro range hword
  have hzero := IntRange.hasZero_of_mem_words hword
  rw [number_some_eq_clamped, clamped_eq_leading hzero]
  constructor
  · intro hinteger
    rw [if_pos (.inl (List.all_eq_true.mpr hinteger.digits)), hinteger.leading_eq]
  · intro hnone
    by_cases hin : range.Contains (leading (trim text))
    · rw [if_pos hin]
      by_cases hnil : behindSign (trim text) = []
      · rw [leading_of_nil hnil, IntRange.clamp_of_contains hzero, ite_self]
      · have hbroken : ¬ (behindSign (trim text)).all isAsciiDigit :=
          fun hdigits => hnone ⟨hnil, List.all_eq_true.mp hdigits⟩
        rw [if_neg (not_or.mpr ⟨hbroken, not_not.mpr hin⟩)]
    · rw [if_neg hin, if_pos (.inr hin)]

/-- One below the least word of 64 bits is moved up to it. One above the greatest of eight bits is
moved down to it, whatever stands behind the digits; the greatest itself with a letter behind it is
nothing. -/
theorem number_some_eq_boundaries :
    (IsInteger (trim " -9223372036854775809\u3000".toList) ∧
      number (.signed 64) (some " -9223372036854775809\u3000".toList) = -9223372036854775808) ∧
    (¬ IsInteger (trim "+256x".toList) ∧ number (.unsigned 8) (some "+256x".toList) = 255) ∧
    ¬ IsInteger (trim "255x".toList) ∧ number (.unsigned 8) (some "255x".toList) = 0 := by
  have hlong : IsInteger (trim " -9223372036854775809\u3000".toList) := by decide
  have hbeyond : ¬ IsInteger (trim "+256x".toList) := by decide
  have hwithin : ¬ IsInteger (trim "255x".toList) := by decide
  refine ⟨⟨hlong, ?_⟩, ⟨hbeyond, ?_⟩, hwithin, ?_⟩
  · rw [(number_some_eq _ (.signed 64) (by decide)).1 hlong]
    decide
  · rw [(number_some_eq _ (.unsigned 8) (by decide)).2 hbeyond]
    decide
  · rw [(number_some_eq _ (.unsigned 8) (by decide)).2 hwithin]
    decide

/-- It is not true that every text that is no numeral counts as zero. -/
theorem not_number_some_eq_zero :
    ¬ ∀ text : List Char, ∀ range ∈ IntRange.words,
      (IsInteger (trim text) → number range (some text) = range.clamp (integer (trim text))) ∧
      (¬ IsInteger (trim text) → number range (some text) = 0) := by
  intro hall
  have hbroken : ¬ IsInteger (trim "300x".toList) := by decide
  exact absurd ((hall "300x".toList (.unsigned 8) (by decide)).2 hbroken) (by decide)

end Script.Parameter

end VisualNovel
