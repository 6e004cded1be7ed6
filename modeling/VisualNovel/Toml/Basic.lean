/-
# TOML values

Configuration is written in TOML. Of its values the configuration uses texts, integers, arrays and
tables, and a date or a time where a text is asked for. Floats are kept as they are written, because
nothing is computed from them.
-/

import VisualNovel.Toml.Moment

namespace VisualNovel

/-- A TOML value. -/
inductive Toml
  | text (value : String)
  | integer (value : Int)
  | boolean (value : Bool)
  /-- A float as it is written. -/
  | float (literal : String)
  | moment (value : Toml.Moment)
  | array (items : List Toml)
  | table (entries : List (String × Toml))
  deriving Inhabited

namespace Toml

/-- The greatest integer. -/
def greatestInteger : Int := 0x7FFFFFFFFFFFFFFF

/-- The least integer. -/
def leastInteger : Int := -0x8000000000000000

/-- The text of a text, and of a date or a time. -/
def text? : Toml → Option String
  | text value => some value
  | moment value => some value.text
  | _ => none

/-- A natural number of 64 bits. No integer is too large for that. -/
def uint64? : Toml → Option UInt64
  | integer value => if 0 ≤ value then some (UInt64.ofNat value.toNat) else none
  | _ => none

/-- The integer of a natural number, unless it is too large. -/
def ofUInt64? (value : UInt64) : Option Toml :=
  if (value.toNat : Int) ≤ greatestInteger then some (integer value.toNat) else none

end Toml

end VisualNovel
