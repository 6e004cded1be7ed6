/-
# Numerals in the digits of any script

Where a parameter is a number, a script may write it in the decimal digits of any script, and each
such digit has a value. What reads the parameter knows the ASCII digits only. So a numeral counts as
the number that it denotes, moved to the nearer end of its range, if it is of ASCII digits, or if
those in front of its first other digit have left the range already. Every other numeral counts as
zero, whatever number it denotes.
-/

import VisualNovel.Proofs.Numeral
import VisualNovel.Proofs.Text.Blank
import VisualNovel.Script.Parameter
import Mathlib.Algebra.Group.Nat.Defs
import Mathlib.Data.List.TakeWhile

namespace VisualNovel

open Text

/-- The nearest number to `n` that is in the range. -/
def IntRange.clamp (range : IntRange) (n : Int) : Int := max range.low (min n range.high)

/-- The range has zero. -/
def IntRange.HasZero (range : IntRange) : Prop := range.low ≤ 0 ∧ 0 ≤ range.high

instance (range : IntRange) : Decidable range.HasZero := inferInstanceAs (Decidable (_ ∧ _))

namespace Text

variable {c : Char}

theorem isAsciiDigit_iff : isAsciiDigit c = true ↔ 48 ≤ c.toNat ∧ c.toNat ≤ 57 := by
  simp [isAsciiDigit, Char.le_def, UInt32.le_iff_toNat_le]

theorem isDecimalDigit_of_isAsciiDigit (hdigit : isAsciiDigit c = true) :
    isDecimalDigit c = true := by
  rw [isDecimalDigit, RangeTable.contains_iff]
  exact ⟨(0x30, 0x39), by simp [decimalDigits], isAsciiDigit_iff.mp hdigit⟩

theorem isBlank_of_isDecimalDigit (hdigit : isDecimalDigit c = true) : isBlank c = false := by
  have hapart : ∀ digits ∈ decimalDigits, ∀ blanks ∈ blankRanges,
      digits.2 < blanks.1 ∨ blanks.2 < digits.1 := by decide +kernel
  obtain ⟨digits, hdigits, hfirst, hlast⟩ := RangeTable.contains_iff.mp hdigit
  rw [isBlank, ← Bool.not_eq_true, RangeTable.contains_iff]
  rintro ⟨blanks, hblanks, hspans⟩
  have := hapart digits hdigits blanks hblanks
  omega

end Text

namespace Numeral

/-- Decimal digits of any script, and at least one. -/
structure IsDecimal (digits : List Char) : Prop where
  nonempty : digits ≠ []
  digits : ∀ c ∈ digits, isDecimalDigit c = true

/-- Decimal digits with or without a minus sign. -/
inductive IsSignedDecimal : List Char → Prop
  | positive {digits : List Char} (hdigits : IsDecimal digits) : IsSignedDecimal digits
  | negative {digits : List Char} (hdigits : IsDecimal digits) : IsSignedDecimal ('-' :: digits)

/-- The value of a decimal digit. In every script the digits stand side by side, from zero to
nine. -/
def decimalValue (c : Char) : Nat :=
  ((decimalDigits.find? fun range => range.1 ≤ c.toNat && c.toNat ≤ range.2).map fun range =>
    (c.toNat - range.1) % 10).getD 0

/-- The number that further digits denote behind those that denote `value`. -/
def magnitude (value : Nat) (digits : List Char) : Nat :=
  digits.foldl (fun value c => 10 * value + decimalValue c) value

/-- The numeral without its sign. -/
def digitsOf : List Char → List Char
  | '-' :: digits => digits
  | digits => digits

/-- The number that the numeral denotes. -/
def denoted : List Char → Int
  | '-' :: digits => -(magnitude 0 digits : Int)
  | digits => magnitude 0 digits

/-- The end of the range on the side of the numeral, without its sign. -/
def limit (range : IntRange) : List Char → Nat
  | '-' :: _ => (-range.low).toNat
  | _ => range.high.toNat

/-- The numeral is of ASCII digits, or those in front of its first other digit have left the
range. -/
def Legible (range : IntRange) (numeral : List Char) : Prop :=
  (∀ c ∈ digitsOf numeral, isAsciiDigit c = true) ∨
    limit range numeral < magnitude 0 ((digitsOf numeral).takeWhile isAsciiDigit)

instance (range : IntRange) (numeral : List Char) : Decidable (Legible range numeral) :=
  let : Decidable (∀ c ∈ digitsOf numeral, isAsciiDigit c = true) :=
    List.decidableBAll (fun c => isAsciiDigit c = true) (digitsOf numeral)
  inferInstanceAs (Decidable (_ ∨ _))

/-- The number that the numeral counts as in the range. -/
def counted (range : IntRange) (numeral : List Char) : Int :=
  if Legible range numeral then range.clamp (denoted numeral) else 0

variable {range : IntRange} {digits numeral : List Char}

theorem decimalValue_of_isAsciiDigit {c : Char} (hdigit : isAsciiDigit c = true) :
    decimalValue c = c.toNat - '0'.toNat := by
  obtain ⟨hzero, hnine⟩ := isAsciiDigit_iff.mp hdigit
  have hfirst : decimalDigits.find? (fun range => range.1 ≤ c.toNat && c.toNat ≤ range.2) =
      some (0x30, 0x39) :=
    List.find?_cons_of_pos (by simp [hzero, hnine])
  have hvalue : '0'.toNat = 48 := rfl
  rw [decimalValue, hfirst, Option.map_some, Option.getD_some]
  omega

theorem magnitude_eq_ofDigitChars (hdigits : ∀ c ∈ digits, isAsciiDigit c = true) (value : Nat) :
    magnitude value digits = Nat.ofDigitChars 10 digits value := by
  induction digits generalizing value with
  | nil => rfl
  | cons c digits ih =>
    obtain ⟨hc, hdigits⟩ := List.forall_mem_cons.mp hdigits
    rw [magnitude, List.foldl_cons, decimalValue_of_isAsciiDigit hc, Nat.ofDigitChars_cons]
    exact ih hdigits _

theorem magnitude_append (value : Nat) (digits further : List Char) :
    magnitude value (digits ++ further) = magnitude (magnitude value digits) further :=
  List.foldl_append

/-- Further digits make a number no smaller. -/
theorem le_magnitude (value : Nat) (digits : List Char) : value ≤ magnitude value digits := by
  induction digits generalizing value with
  | nil => exact Nat.le_refl value
  | cons c digits ih =>
    have hrest := ih (10 * value + decimalValue c)
    rw [magnitude, List.foldl_cons]
    exact Nat.le_trans (by omega) hrest

theorem decimalValue_lt (c : Char) : decimalValue c < 10 := by
  rw [decimalValue]
  cases decimalDigits.find? _ with
  | none => exact Nat.succ_pos 9
  | some range => exact Nat.mod_lt _ (by decide)

/-- With every digit a number has at most ten times as many. -/
theorem magnitude_lt (value : Nat) (digits : List Char) :
    magnitude value digits < (value + 1) * 10 ^ digits.length := by
  induction digits generalizing value with
  | nil => simp [magnitude]
  | cons c digits ih =>
    have hvalue := decimalValue_lt c
    calc magnitude value (c :: digits)
        < (10 * value + decimalValue c + 1) * 10 ^ digits.length := ih _
      _ ≤ ((value + 1) * 10) * 10 ^ digits.length := Nat.mul_le_mul_right _ (by omega)
      _ = (value + 1) * 10 ^ (c :: digits).length := by
        rw [List.length_cons, Nat.pow_succ, Nat.mul_assoc, Nat.mul_comm 10]

theorem magnitude_takeWhile_le (digits : List Char) :
    magnitude 0 (digits.takeWhile isAsciiDigit) ≤ magnitude 0 digits := by
  have hrest := le_magnitude (magnitude 0 (digits.takeWhile isAsciiDigit))
    (digits.dropWhile isAsciiDigit)
  rwa [← magnitude_append, List.takeWhile_append_dropWhile] at hrest

/-- Digits are read up to the first that is no ASCII digit. -/
theorem readDigits_eq_magnitude {bound : Nat} {exceeded : Reading} {finish : Nat → Int} :
    readDigits bound exceeded finish 0 digits =
      if bound < magnitude 0 (digits.takeWhile isAsciiDigit) then exceeded
      else if digits.all isAsciiDigit then .value (finish (magnitude 0 digits))
      else .malformed := by
  have hfront : magnitude 0 (digits.takeWhile isAsciiDigit) = _ :=
    magnitude_eq_ofDigitChars (fun c hc => List.mem_takeWhile_imp hc) 0
  rw [readDigits_eq (Nat.zero_le bound), hfront]
  by_cases hall : digits.all isAsciiDigit = true
  · rw [if_pos hall, if_pos hall, magnitude_eq_ofDigitChars (List.all_eq_true.mp hall)]
  · rw [if_neg hall, if_neg hall]

theorem IsDecimal.unsigned (hdecimal : IsDecimal digits) :
    ∀ c ∈ digits.head?, c ≠ '+' ∧ c ≠ '-' := by
  intro c hc
  have hdigit := hdecimal.digits c (List.mem_of_mem_head? hc)
  constructor <;>
  · rintro rfl
    exact absurd hdigit (by decide +kernel)

/-- A numeral without a sign is all digits, and has the upper end of the range on its side. -/
theorem IsDecimal.parts_eq (hdecimal : IsDecimal digits) (range : IntRange) :
    digitsOf digits = digits ∧ denoted digits = magnitude 0 digits ∧
      limit range digits = range.high.toNat := by
  obtain ⟨c, rest, rfl⟩ := List.exists_cons_of_ne_nil hdecimal.nonempty
  have hsign : c ≠ '-' := (hdecimal.unsigned c rfl).2
  refine ⟨?_, ?_, ?_⟩
  · exact digitsOf.eq_2 _ fun _ hminus => hsign (List.cons.inj hminus).1
  · exact denoted.eq_2 _ fun _ hminus => hsign (List.cons.inj hminus).1
  · exact limit.eq_2 range _ fun _ hminus => hsign (List.cons.inj hminus).1

/-- What becomes of a reading in the range. -/
def Reading.settled (range : IntRange) : Reading → Int
  | .value number => number
  | .tooLarge => range.high
  | .tooSmall => range.low
  | .malformed => 0

theorem clamped_eq_settled (range : IntRange) (text : List Char) :
    clamped range text = (read range text).settled range := rfl

/-- On either side of zero, a numeral counts as it is read if what is in the range keeps its number
and what is beyond is moved to the end of the range. -/
theorem clamped_eq_counted (exceeded : Reading) (finish : Nat → Int)
    (hread : read range numeral =
      readDigits (limit range numeral) exceeded finish 0 (digitsOf numeral))
    (hdenoted : denoted numeral = finish (magnitude 0 (digitsOf numeral)))
    (hwithin : ∀ n ≤ limit range numeral, finish n = range.clamp (finish n))
    (hbeyond : ∀ n, limit range numeral < n → exceeded.settled range = range.clamp (finish n)) :
    clamped range numeral = counted range numeral := by
  have hfront := magnitude_takeWhile_le (digitsOf numeral)
  rw [clamped_eq_settled, hread, readDigits_eq_magnitude, counted, hdenoted]
  by_cases hleft : limit range numeral < magnitude 0 ((digitsOf numeral).takeWhile isAsciiDigit)
  · have hlegible : Legible range numeral := .inr hleft
    rw [if_pos hleft, if_pos hlegible, hbeyond _ (Nat.lt_of_lt_of_le hleft hfront)]
  · rw [if_neg hleft]
    by_cases hall : ∀ c ∈ digitsOf numeral, isAsciiDigit c = true
    · have hlegible : Legible range numeral := .inl hall
      rw [takeWhile_isAsciiDigit hall] at hleft
      rw [if_pos (List.all_eq_true.mpr hall), if_pos hlegible]
      exact hwithin _ (Nat.le_of_not_lt hleft)
    · have hlegible : ¬ Legible range numeral := not_or.mpr ⟨hall, hleft⟩
      rw [if_neg (mt List.all_eq_true.mp hall), if_neg hlegible]
      rfl

/-- Digits without a sign are read as the number that they count as. -/
theorem IsDecimal.clamped_eq (hdecimal : IsDecimal digits) (hzero : range.HasZero) :
    clamped range digits = counted range digits := by
  obtain ⟨hdigits, hdenoted, hlimit⟩ := hdecimal.parts_eq range
  unfold IntRange.HasZero at hzero
  refine clamped_eq_counted .tooLarge (fun n => n) ?_ ?_ ?_ ?_
  · rw [hdigits, hlimit]
    exact read_of_unsigned hdecimal.nonempty hdecimal.unsigned
  · rw [hdigits, hdenoted]
  · rw [hlimit]
    intro n hn
    simp only [IntRange.clamp]
    omega
  · rw [hlimit]
    intro n hn
    simp only [IntRange.clamp, Reading.settled]
    omega

/-- So are those with a sign, in a range that has numbers below zero. -/
theorem IsSignedDecimal.clamped_eq (hsigned : IsSignedDecimal numeral) (hzero : range.HasZero)
    (hbelow : range.low < 0) : clamped range numeral = counted range numeral := by
  cases hsigned with
  | positive hdecimal => exact hdecimal.clamped_eq hzero
  | @negative digits hdecimal =>
    unfold IntRange.HasZero at hzero
    refine clamped_eq_counted .tooSmall (fun n => -n) ?_ rfl ?_ ?_
    · obtain ⟨c, rest, rfl⟩ := List.exists_cons_of_ne_nil hdecimal.nonempty
      simp [read, hbelow, limit, digitsOf]
    · intro n hn
      simp only [IntRange.clamp, limit] at hn ⊢
      omega
    · intro n hn
      simp only [IntRange.clamp, Reading.settled, limit] at hn ⊢
      omega

/-- A numeral that cannot leave the range is in it, or counts as zero. -/
theorem getD_inRange?_eq_counted (hdecimal : IsDecimal digits) (hzero : range.HasZero)
    (hwithin : magnitude 0 digits ≤ range.high.toNat) :
    (inRange? range digits).getD 0 = counted range digits := by
  have hfront := Nat.le_trans (magnitude_takeWhile_le digits) hwithin
  rw [← hdecimal.clamped_eq hzero, clamped, inRange?,
    read_of_unsigned hdecimal.nonempty hdecimal.unsigned, readDigits_eq_magnitude,
    if_neg (Nat.not_lt.mpr hfront)]
  by_cases hall : digits.all isAsciiDigit = true
  · rw [if_pos hall]
    rfl
  · rw [if_neg hall]
    rfl

/-- A numeral counts as a number of the range. -/
theorem counted_mem (hzero : range.HasZero) (numeral : List Char) :
    range.low ≤ counted range numeral ∧ counted range numeral ≤ range.high := by
  unfold IntRange.HasZero at hzero
  unfold counted IntRange.clamp
  split <;> omega

theorem hasZero_unsigned : (IntRange.unsigned 32).HasZero := by decide

/-- An unsigned word holds what a numeral counts as in its range. -/
theorem toNat_ofNat_counted (numeral : List Char) :
    ((UInt32.ofNat (counted (.unsigned 32) numeral).toNat).toNat : Int) =
      counted (.unsigned 32) numeral := by
  obtain ⟨hlow, hhigh⟩ := counted_mem hasZero_unsigned numeral
  have hsize : (counted (.unsigned 32) numeral).toNat < UInt32.size :=
    (Int.toNat_lt hlow).mpr (Int.lt_of_le_sub_one hhigh)
  rw [UInt32.toNat_ofNat_of_lt' hsize]
  exact Int.toNat_of_nonneg hlow

end Numeral

namespace Numeral

variable {numeral : List Char}

theorem IsSignedDecimal.nonempty (hsigned : IsSignedDecimal numeral) : numeral ≠ [] := by
  cases hsigned with
  | positive hdecimal => exact hdecimal.nonempty
  | negative => exact List.cons_ne_nil _ _

theorem IsSignedDecimal.visible (hsigned : IsSignedDecimal numeral) :
    ∀ c ∈ numeral, isBlank c = false := by
  have hdigits {digits : List Char} (hdecimal : IsDecimal digits) :
      ∀ c ∈ digits, isBlank c = false :=
    fun c hc => isBlank_of_isDecimalDigit (hdecimal.digits c hc)
  cases hsigned with
  | positive hdecimal => exact hdigits hdecimal
  | negative hdecimal => exact List.forall_mem_cons.mpr ⟨by decide, hdigits hdecimal⟩

end Numeral

namespace Script.Parameter

open Numeral

/-- A parameter without blanks is used as it is. -/
theorem visible?_some {parameter : List Char} (hnonempty : parameter ≠ [])
    (hvisible : ∀ c ∈ parameter, isBlank c = false) :
    visible? (some parameter) = some parameter := by
  simp [visible?, Text.visible?, trim_of_forall hvisible, hnonempty]

theorem number_some {numeral : List Char} (hsigned : IsSignedDecimal numeral) (range : IntRange) :
    number range (some numeral) = clamped range numeral := by
  rw [number, visible?_some hsigned.nonempty hsigned.visible]

/-- As an unsigned word, a numeral is what it counts as. -/
theorem toNat_toUInt32 {numeral : List Char} (hdecimal : IsDecimal numeral) :
    ((toUInt32 (some numeral)).toNat : Int) = counted (.unsigned 32) numeral := by
  rw [toUInt32, number_some (.positive hdecimal), hdecimal.clamped_eq hasZero_unsigned,
    toNat_ofNat_counted]

/-- So it is as a signed word. -/
theorem toInt_toInt32 {numeral : List Char} (hsigned : IsSignedDecimal numeral) :
    (toInt32 (some numeral)).toInt = counted (.signed 32) numeral := by
  have hzero : (IntRange.signed 32).HasZero := by decide
  obtain ⟨hlow, hhigh⟩ := counted_mem hzero numeral
  rw [toInt32, number_some hsigned, hsigned.clamped_eq hzero (by decide)]
  exact Int32.toInt_ofInt_of_le hlow (Int.lt_of_le_sub_one hhigh)

end Script.Parameter
end VisualNovel
