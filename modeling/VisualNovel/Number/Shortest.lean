/-
# The shortest decimal of a floating-point number

A number of a floating-point format stands for all the real numbers that round to it. Of the
decimals among them the shortest is written, and of the shortest ones the nearest to the number. The
search runs over the number of digits; for each it looks at the two neighbours of the number on the
grid of that many digits, in exact arithmetic on natural numbers. In single precision nine digits
always suffice, in double precision seventeen.
-/

import VisualNovel.Number.Decimal

namespace VisualNovel.Number

/-- A positive rational number. -/
structure Ratio where
  numerator : Nat
  denominator : Nat

namespace Ratio

/-- Whether the one ratio is less than the other. -/
def lt (a b : Ratio) : Bool := a.numerator * b.denominator < b.numerator * a.denominator

/-- Whether the one ratio is at most the other. -/
def le (a b : Ratio) : Bool := a.numerator * b.denominator ≤ b.numerator * a.denominator

/-- The ratio `count * base ^ exponent`. -/
def scaled (count base : Nat) (exponent : Int) : Ratio :=
  if exponent < 0 then ⟨count, Nat.pow base exponent.natAbs⟩
  else ⟨count * Nat.pow base exponent.toNat, 1⟩

/-- The absolute difference of two ratios. -/
def distance (a b : Ratio) : Ratio :=
  let left := a.numerator * b.denominator
  let right := b.numerator * a.denominator
  ⟨if left ≤ right then right - left else left - right, a.denominator * b.denominator⟩

/-- The quotient of the ratio by `10 ^ exponent`, rounded down. -/
def floorDiv (a : Ratio) (exponent : Int) : Nat :=
  if exponent < 0 then a.numerator * Nat.pow 10 exponent.natAbs / a.denominator
  else a.numerator / (a.denominator * Nat.pow 10 exponent.toNat)

end Ratio

/-- A floating-point format. -/
structure FloatFormat where
  /-- The least normal mantissa. -/
  hidden : Nat
  /-- The number of codes of the exponent, the last of which is not for finite numbers. -/
  codes : Nat
  /-- The least exponent. -/
  least : Int
  /-- How many digits always suffice. -/
  digits : Nat
  /-- A bound on the exponents of the leading decimal digit, either way. -/
  reach : Nat

namespace FloatFormat

/-- Single precision. -/
def single : FloatFormat := ⟨0x800000, 0x100, -149, 9, 45⟩

/-- Double precision. -/
def double : FloatFormat := ⟨0x10000000000000, 0x800, -1074, 17, 324⟩

end FloatFormat

/-- The magnitude `mantissa * 2 ^ exponent` of a finite number of a format. -/
structure Magnitude (format : FloatFormat) where
  mantissa : Nat
  exponent : Int
  deriving DecidableEq, Repr

namespace Magnitude

variable {format : FloatFormat}

/-- The magnitude of the number with the given bits, the sign aside. -/
def ofBits (format : FloatFormat) (bits : Nat) : Magnitude format :=
  let field := bits / format.hidden % format.codes
  let fraction := bits % format.hidden
  if field = 0 then ⟨fraction, format.least⟩
  else ⟨format.hidden + fraction, format.least + field - 1⟩

/-- The number itself. -/
def value (m : Magnitude format) : Ratio := .scaled m.mantissa 2 m.exponent

/-- The upper end of the numbers that round to the magnitude. -/
def upper (m : Magnitude format) : Ratio := .scaled (2 * m.mantissa + 1) 2 (m.exponent - 1)

/-- The lower end of the numbers that round to the magnitude. Below a power of two the numbers of
the format lie twice as dense. -/
def lower (m : Magnitude format) : Ratio :=
  if m.mantissa = format.hidden && m.exponent != format.least then
    .scaled (4 * m.mantissa - 1) 2 (m.exponent - 2)
  else .scaled (2 * m.mantissa - 1) 2 (m.exponent - 1)

/-- Whether the ratio rounds to the magnitude; the ends do where the mantissa is even. -/
def covers (m : Magnitude format) (r : Ratio) : Bool :=
  if m.mantissa % 2 = 0 then m.lower.le r && r.le m.upper else m.lower.lt r && r.lt m.upper

/-- The exponent of the leading decimal digit, found by trying those within reach. -/
def leadingExponent (m : Magnitude format) : Int :=
  let below := (List.range (2 * format.reach)).filter fun (i : Nat) =>
    (Ratio.scaled 1 10 ((i : Int) - format.reach)).le m.value
  ((below.getLast?.getD 0 : Nat) : Int) - format.reach

/-- The nearer of two neighbouring digit strings on the grid of `10 ^ exponent`, the even one when
they are equally near. -/
def nearer (m : Magnitude format) (exponent : Int) (low high : Nat) : Nat :=
  let below := m.value.distance (.scaled low 10 exponent)
  let above := m.value.distance (.scaled high 10 exponent)
  if below.lt above then low
  else if above.lt below then high
  else if low % 2 = 0 then low else high

/-- Digits that were counted up to the next power of ten become a single one. -/
def carried (count digits : Nat) (exponent : Int) : Nat × Int :=
  if digits = Nat.pow 10 count then (1, exponent + count) else (digits, exponent)

/-- The best decimal with `count` digits, if one of that many rounds to the magnitude. -/
def withDigits? (m : Magnitude format) (leading : Int) (count : Nat) : Option (Nat × Int) :=
  let exponent := leading - count + 1
  let low := m.value.floorDiv exponent
  let high := low + 1
  match m.covers (.scaled low 10 exponent), m.covers (.scaled high 10 exponent) with
  | true, true => some (carried count (m.nearer exponent low high) exponent)
  | true, false => some (low, exponent)
  | false, true => some (carried count high exponent)
  | false, false => none

/-- The shortest decimal that rounds to a magnitude other than zero. -/
def shortest (m : Magnitude format) : Nat × Int :=
  ((List.range format.digits).findSome? fun i => m.withDigits? m.leadingExponent (i + 1)).getD
    (m.mantissa, m.exponent)

end Magnitude

/-- The shortest decimal of the number with the given bits, which has to be finite. -/
def shortestOfBits? (format : FloatFormat) (bits : Nat) : Option Decimal :=
  let negative := decide (format.hidden * format.codes ≤ bits)
  if bits / format.hidden % format.codes = format.codes - 1 then none
  else
    let magnitude := Magnitude.ofBits format bits
    if magnitude.mantissa = 0 then some ⟨negative, 0, 0⟩
    else
      let (digits, exponent) := magnitude.shortest
      some ⟨negative, digits, exponent⟩

/-- The shortest decimal of a finite number in single precision; infinity has none. -/
def shortestDecimal? (x : Float32) : Option Decimal :=
  shortestOfBits? .single x.toBits.toNat

/-- The shortest decimal of a finite number in double precision; infinity has none. -/
def shortestDecimalOfDouble? (x : Float) : Option Decimal :=
  shortestOfBits? .double x.toBits.toNat

end VisualNovel.Number
