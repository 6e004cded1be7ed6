/-
# Decimal literals in binary floating point

A decimal literal is a sign, a significand of at most 64 bits and a power of ten. It is read in
double precision in two steps, each rounded to the nearest double: the significand becomes a double,
and that double is multiplied or divided by the double nearest to the power of ten. A literal beyond
the largest double has no value. Quantities of a story are kept in single precision, to which the
double is rounded.
-/

namespace VisualNovel.Number

/-- The literal `significand * 10 ^ exponent`, negated if `negative`. -/
structure Decimal where
  negative : Bool
  significand : Nat
  exponent : Int
  deriving DecidableEq, Repr

/-- The largest power of ten among the doubles. -/
def largestPower : Nat := 308

/-- The double nearest to `10 ^ exponent`. -/
def powerOfTen (exponent : Nat) : Float := Float.ofScientific 1 false exponent

/-- The double nearest to the significand. -/
def significandFloat (significand : Nat) : Float := (UInt64.ofNat significand).toFloat

/-- `value * 10 ^ exponent` for a value that is not negative; none beyond the largest double. -/
def scaleUp? (value : Float) (exponent : Nat) : Option Float :=
  if exponent ≤ largestPower then
    let scaled := value * powerOfTen exponent
    if scaled.isInf then none else some scaled
  else if value == 0 then some value else none

/-- `value / 10 ^ exponent`. Beyond the largest power the division is done in two parts, and what
two parts do not reach is zero. -/
def scaleDown (value : Float) (exponent : Nat) : Float :=
  if exponent ≤ largestPower then value / powerOfTen exponent
  else
    let partly := value / powerOfTen largestPower
    let remaining := exponent - largestPower
    if remaining ≤ largestPower then partly / powerOfTen remaining else 0

/-- The double that the literal denotes, if it is not beyond the largest one. -/
def Decimal.toFloat? (literal : Decimal) : Option Float := do
  let value := significandFloat literal.significand
  let magnitude ←
    if literal.exponent < 0 then some (scaleDown value literal.exponent.natAbs)
    else scaleUp? value literal.exponent.toNat
  return if literal.negative then -magnitude else magnitude

/-- An integer of at most 64 bits in single precision. -/
def singleOfInt (value : Int) : Float32 :=
  let magnitude := (UInt64.ofNat value.natAbs).toFloat32
  if value < 0 then -magnitude else magnitude

end VisualNovel.Number
