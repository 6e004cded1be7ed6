/-
# Rounding to single precision

A number in double precision is rounded to the nearest one in single precision, of two equally near
ones to that with an even mantissa. Beyond the largest one it becomes infinite. The rounding is done
on the magnitude in exact arithmetic on natural numbers, as the search for the shortest decimal is.
-/

import VisualNovel.Number.Shortest

namespace VisualNovel.Number

/-- The natural number nearest to the quotient, the even one of two that are equally near. -/
def roundedQuotient (n d : Nat) : Nat :=
  let below := n / d
  let twice := 2 * (n % d)
  if twice < d || (twice == d && below % 2 == 0) then below else below + 1

namespace Magnitude

variable {format : FloatFormat}

/-- The bits, the sign aside, of the number of the format that is nearest to a magnitude of any
format. A mantissa that is rounded up to the next power of two counts up the exponent. -/
def bitsIn (format' : FloatFormat) (m : Magnitude format) : Nat :=
  let exponent := max format'.least (m.exponent + m.mantissa.log2 - format'.hidden.log2)
  let mantissa :=
    if exponent ≤ m.exponent then m.mantissa * Nat.pow 2 (m.exponent - exponent).toNat
    else roundedQuotient m.mantissa (Nat.pow 2 (exponent - m.exponent).toNat)
  min (mantissa + (exponent - format'.least).toNat * format'.hidden)
    ((format'.codes - 1) * format'.hidden)

end Magnitude

/-- A finite number in double precision, rounded to single precision. -/
def singleOfDouble (x : Float) : Float32 :=
  let bits := x.toBits.toNat
  let sign : Nat := if FloatFormat.double.hidden * FloatFormat.double.codes ≤ bits then
    FloatFormat.single.hidden * FloatFormat.single.codes else 0
  Float32.ofBits (UInt32.ofNat (sign + (Magnitude.ofBits .double bits).bitsIn .single))

example : singleOfDouble 0.1 = 0.1 ∧ singleOfDouble (-1e-45) = -1e-45 := by decide +kernel

end VisualNovel.Number
