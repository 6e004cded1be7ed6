/-
# Numerals in a bounded range

A parameter of a directive is read as an integer of some fixed range. The numeral is an optional
sign, a minus only where the range has negative numbers, and then ASCII digits. It is read from the
left, and the first thing that goes wrong decides: a character that is no digit makes the numeral
malformed, and a value that leaves the range makes it too large or too small whatever follows.
-/

import VisualNovel.Text.Blank
import VisualNovel.Text.DecimalDigit

namespace VisualNovel

/-- The integers from `low` to `high`. -/
structure IntRange where
  low : Int
  high : Int
  deriving DecidableEq, Repr

namespace IntRange

/-- The range of an unsigned word of `bits` bits. -/
def unsigned (bits : Nat) : IntRange := ⟨0, (Nat.pow 2 bits : Int) - 1⟩

/-- The range of a two's complement word of `bits` bits. -/
def signed (bits : Nat) : IntRange :=
  ⟨-(Nat.pow 2 (bits - 1) : Int), (Nat.pow 2 (bits - 1) : Int) - 1⟩

end IntRange

namespace Numeral

/-- What becomes of a text that is read as an integer of a range. -/
inductive Reading
  | value (number : Int)
  | tooLarge
  | tooSmall
  | malformed
  deriving DecidableEq, Repr

/-- The value of an ASCII digit. -/
def digitValue (c : Char) : Nat := c.toNat - '0'.toNat

/-- The value of a hexadecimal digit. -/
def hexValue? (c : Char) : Option Nat :=
  if '0' ≤ c && c ≤ '9' then some (c.toNat - '0'.toNat)
  else if 'a' ≤ c && c ≤ 'f' then some (c.toNat - 'a'.toNat + 10)
  else if 'A' ≤ c && c ≤ 'F' then some (c.toNat - 'A'.toNat + 10)
  else none

/-- Reads digits from the left into `value`, with `exceeded` as the answer once the magnitude
passes `bound` and `finish` applied to the magnitude at the end. -/
def readDigits (bound : Nat) (exceeded : Reading) (finish : Nat → Int) (value : Nat) :
    List Char → Reading
  | [] => .value (finish value)
  | c :: rest =>
    if Text.isAsciiDigit c then
      let next := value * 10 + digitValue c
      if bound < next then exceeded else readDigits bound exceeded finish next rest
    else .malformed

/-- Reads the whole text as an integer of the range. -/
def read (range : IntRange) : List Char → Reading
  | [] | ['+'] | ['-'] => .malformed
  | '+' :: digits => readDigits range.high.toNat .tooLarge (fun n => n) 0 digits
  | '-' :: digits =>
    if range.low < 0 then readDigits (-range.low).toNat .tooSmall (fun n => -n) 0 digits
    else .malformed
  | digits => readDigits range.high.toNat .tooLarge (fun n => n) 0 digits

/-- The integer that the text denotes, if it denotes one of the range. -/
def inRange? (range : IntRange) (text : List Char) : Option Int :=
  match read range text with
  | .value number => some number
  | _ => none

/-- The integer that the text denotes, moved to the nearer end of the range when it lies outside;
a malformed text counts as zero. -/
def clamped (range : IntRange) (text : List Char) : Int :=
  match read range text with
  | .value number => number
  | .tooLarge => range.high
  | .tooSmall => range.low
  | .malformed => 0

example : clamped (.unsigned 8) "300x".toList = 255 ∧ clamped (.unsigned 8) "30x".toList = 0 ∧
    clamped (.signed 32) "-9999999999".toList = -2147483648 ∧
    clamped (.unsigned 8) "-3".toList = 0 := by decide

end Numeral

end VisualNovel
