/-
# Encoding into JSON values

The encoders that go with the decoders. A single precision number is encoded as its shortest
decimal, and infinity as null. An absent value is null, never a missing field.
-/

import VisualNovel.Json.Basic
import VisualNovel.Number.Shortest

namespace VisualNovel.Json

open Number

variable {α : Type}

/-- A natural number. -/
def ofNat (n : Nat) : Json := int n

/-- A number in single precision. -/
def ofSingle (x : Float32) : Json :=
  match shortestDecimal? x with
  | some literal => decimal literal
  | none => null

/-- A value that may be absent. -/
def ofOption (encode : α → Json) : Option α → Json
  | some value => encode value
  | none => null

/-- The encoded items. -/
def ofList (encode : α → Json) (items : List α) : Json := arr (items.map encode)

end VisualNovel.Json
