/-
# Unquoted scalars

A value without quotes or brackets is a truth value, an integer, a float or a date. Digits may be
grouped by underscores that have digits on both sides. An integer in decimal has no superfluous
leading zero; in another base it has a mark and no sign. A float has a fraction, an exponent or
both, and rounds to a double, or is infinite or no number.
-/

import VisualNovel.Numeral
import VisualNovel.Toml.Basic

namespace VisualNovel.Toml

open Text

namespace Scalar

/-- Digits without their underscores. -/
def ungrouped? (isDigit : Char → Bool) (written : List Char) : Option (List Char) :=
  let groups := written.splitOn '_'
  if groups.all fun group => !group.isEmpty && group.all isDigit then some groups.flatten else none

/-- The value of a digit in a base up to sixteen. -/
def digitValue (c : Char) : Nat :=
  if isAsciiDigit c then Numeral.digitValue c
  else c.toLower.toNat - 'a'.toNat + 10

/-- Whether `c` is a digit of the base. -/
def isDigitOf (base : Nat) (c : Char) : Bool :=
  (isAsciiDigit c || ('a' ≤ c.toLower && c.toLower ≤ 'f')) && digitValue c < base

/-- The number that the grouped digits denote in the base. -/
def natural? (base : Nat) (written : List Char) : Option Nat :=
  (ungrouped? (isDigitOf base) written).map fun digits =>
    digits.foldl (fun n c => n * base + digitValue c) 0

/-- The sign of a number, and the rest. -/
def splitSign : List Char → Bool × List Char
  | '-' :: rest => (true, rest)
  | '+' :: rest => (false, rest)
  | written => (false, written)

/-- The digits of a decimal integer without sign. -/
def decimalDigits? (written : List Char) : Option (List Char) :=
  match ungrouped? isAsciiDigit written with
  | some ('0' :: _ :: _) => none
  | found => found

/-- An integer in range. -/
def inRange? (value : Int) : Option Toml :=
  if leastInteger ≤ value && value ≤ greatestInteger then some (.integer value) else none

/-- An integer. -/
def integer? (written : List Char) : Option Toml :=
  match written with
  | '0' :: 'x' :: digits => (natural? 16 digits).bind fun n => inRange? n
  | '0' :: 'o' :: digits => (natural? 8 digits).bind fun n => inRange? n
  | '0' :: 'b' :: digits => (natural? 2 digits).bind fun n => inRange? n
  | written =>
    let (negative, rest) := splitSign written
    (decimalDigits? rest).bind fun digits =>
      let magnitude := digits.foldl (fun n c => n * 10 + digitValue c) 0
      inRange? (if negative then -(magnitude : Int) else magnitude)

/-- The exponent that is written so, its mark aside. -/
def exponent? (written : List Char) : Option Int :=
  let (negative, digits) := splitSign written
  (natural? 10 digits).map fun n => if negative then -(n : Int) else n

/-- The digits of a number, as an integer, and the power of ten that it is to be multiplied by. -/
def scaled? (written : List Char) : Option (Nat × Int) := do
  let isMark (c : Char) : Bool := c == 'e' || c == 'E'
  let mantissa := written.takeWhile fun c => !isMark c
  let exponent := written.dropWhile fun c => !isMark c
  let fraction := mantissa.dropWhile (· != '.')
  guard (!(fraction.isEmpty && exponent.isEmpty))
  let whole ← decimalDigits? (mantissa.takeWhile (· != '.'))
  let fraction ← if fraction.isEmpty then some [] else ungrouped? isAsciiDigit fraction.tail
  let exponent ← if exponent.isEmpty then some 0 else exponent? exponent.tail
  let number := (whole ++ fraction).foldl (fun n c => n * 10 + digitValue c) 0
  return (number, exponent - fraction.length)

/-- The least number that is too large to be rounded to a double: half a step beyond the largest. -/
def doubleBound : Nat := Nat.pow 2 1024 - Nat.pow 2 970

/-- The number of digits of the bound. -/
def doubleBoundDigits : Nat := 309

/-- Whether `number * 10 ^ scale` can be rounded to a double. Mostly the number of digits tells. -/
def hasDouble (number : Nat) (scale : Int) : Bool :=
  let digits : Int := (if number = 0 then 0 else (Nat.toDigits 10 number).length) + scale
  if number = 0 || digits < doubleBoundDigits then true
  else if (doubleBoundDigits : Int) < digits then false
  else if scale < 0 then number < doubleBound * Nat.pow 10 scale.natAbs
  else number * Nat.pow 10 scale.toNat < doubleBound

/-- A float. -/
def float? (written : List Char) : Option Toml :=
  let found : Toml := .float (String.ofList written)
  let unsigned := (splitSign written).2
  if unsigned = "inf".toList || unsigned = "nan".toList then some found
  else (scaled? unsigned).bind fun (number, scale) =>
    if hasDouble number scale then some found else none

/-- The scalar that is written so. -/
def read? (written : List Char) : Option Toml :=
  if written = "true".toList then some (.boolean true)
  else if written = "false".toList then some (.boolean false)
  else
    ((Moment.read? written).map Toml.moment).or ((integer? written).or (float? written))

end Scalar

end VisualNovel.Toml
