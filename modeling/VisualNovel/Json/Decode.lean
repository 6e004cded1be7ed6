/-
# Decoding JSON values

Decoders are strict. An integer is decoded only from an integer literal in the range of its type, a
single precision number from any number, and text only from a string. A record is decoded from an
object: a field that it knows may not be repeated, and fields that it does not know are passed over.
It is also decoded from an array with the values of its fields in order, and if all of them have
defaults, then the last ones may be missing from the array. What a field means that is missing from
the object is up to the record: a default, an absent value, or a failure. One of several names is
decoded from a string, or from an object with the name for its only field, which is null. Where a
value is kept whole before it is decoded, an empty object would do for that null; this is left out.
-/

import VisualNovel.Json.Basic
import VisualNovel.Number.Rounding

namespace VisualNovel.Json

open Number

variable {α : Type}

/-- The text of a string. -/
def text? : Json → Option String
  | str text => some text
  | _ => none

/-- The value of a truth value. -/
def bool? : Json → Option Bool
  | bool value => some value
  | _ => none

/-- An integer from `low` to `high`. -/
def intBetween? (low high : Int) : Json → Option Int
  | int value => if low ≤ value ∧ value ≤ high then some value else none
  | _ => none

/-- An unsigned integer of 8 bits. -/
def uint8? (json : Json) : Option UInt8 :=
  (json.intBetween? 0 0xFF).map fun n => UInt8.ofNat n.toNat

/-- An unsigned integer of 32 bits. -/
def uint32? (json : Json) : Option UInt32 :=
  (json.intBetween? 0 0xFFFFFFFF).map fun n => UInt32.ofNat n.toNat

/-- An unsigned integer of 64 bits. -/
def uint64? (json : Json) : Option UInt64 :=
  (json.intBetween? 0 0xFFFFFFFFFFFFFFFF).map fun n => UInt64.ofNat n.toNat

/-- A signed integer of 32 bits. -/
def int32? (json : Json) : Option Int32 :=
  (json.intBetween? (-0x80000000) 0x7FFFFFFF).map Int32.ofInt

/-- A number in single precision. -/
def single? : Json → Option Float32
  | int value => some (singleOfInt value)
  | decimal literal => literal.toFloat?.map singleOfDouble
  | _ => none

/-- The items of an array, each decoded. -/
def list? (decode : Json → Option α) : Json → Option (List α)
  | arr items => items.mapM decode
  | _ => none

/-- The decoded value, or nothing for null. -/
def nullable? (decode : Json → Option α) : Json → Option (Option α)
  | null => some none
  | json => (decode json).map some

/-- The name that stands for one of several values. -/
def name? : Json → Option String
  | str name => some name
  | obj [(name, null)] => some name
  | _ => none

/-- The one of the values with the name. -/
def oneNamed? (values : List α) (name : α → String) (json : Json) : Option α :=
  json.name?.bind fun found => values.find? (name · == found)

/-- The fields of an object in the order in which they are written. -/
abbrev Fields := List (String × Json)

/-- The fields of an object. -/
def fields? : Json → Option Fields
  | obj fields => some fields
  | _ => none

/-- The fields of a record with the given names for its fields, in their order. Beside an object, it
may be an array with the values of all of them. -/
def fullRecord? (names : List String) : Json → Option Fields
  | obj fields => some fields
  | arr items => if items.length = names.length then some (names.zip items) else none
  | _ => none

/-- The fields of a record whose fields may all be missing. In an array, too, the last ones may be
missing. -/
def record? (names : List String) : Json → Option Fields
  | obj fields => some fields
  | arr items => if items.length ≤ names.length then some (names.zip items) else none
  | _ => none

namespace Fields

/-- The value of the field called by one of the names, if it is there; a failure if it is there more
than once. -/
def lookup? (fields : Fields) (names : List String) : Option (Option Json) :=
  match fields.filter fun field => names.contains field.1 with
  | [] => some none
  | [(_, value)] => some (some value)
  | _ => none

/-- A field that has to be there. -/
def required? (fields : Fields) (name : String) (decode : Json → Option α) : Option α := do
  match ← fields.lookup? [name] with
  | some value => decode value
  | none => none

/-- A field that takes a default when it is missing. -/
def withDefault? (fields : Fields) (name : String) (fallback : α) (decode : Json → Option α) :
    Option α := do
  match ← fields.lookup? [name] with
  | some value => decode value
  | none => some fallback

/-- A field that may be missing or null. -/
def optional? (fields : Fields) (name : String) (decode : Json → Option α) :
    Option (Option α) := do
  match ← fields.lookup? [name] with
  | some value => value.nullable? decode
  | none => some none

end Fields

end VisualNovel.Json
