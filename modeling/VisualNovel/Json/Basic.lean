/-
# JSON values

A value keeps everything that decoding needs to see: the order and the repetitions of an object's
fields, and whether a number was written as an integer. An integer literal within 64 bits is an
integer; any other number is a decimal. A token may have the right shape and still denote nothing,
such as a string with half a surrogate pair or a number beyond the largest double. It is kept as an
unreadable value, and so is an object with such a string for a name, because a decoder that passes
over the value does not mind.
-/

import VisualNovel.Number.Decimal

namespace VisualNovel

open Number (Decimal)

/-- A JSON value. -/
inductive Json
  | null
  | bool (value : Bool)
  | int (value : Int)
  | decimal (literal : Decimal)
  | str (text : String)
  | arr (items : List Json)
  | obj (fields : List (String × Json))
  | unreadable
  deriving Inhabited

namespace Json

/-- The least integer that an integer literal may denote. -/
def leastInteger : Int := -0x8000000000000000

/-- The greatest integer that an integer literal may denote. -/
def greatestInteger : Int := 0xFFFFFFFFFFFFFFFF

mutual

/-- How deep arrays and objects are nested in the value. -/
def depth : Json → Nat
  | arr items => depthOfItems items + 1
  | obj fields => depthOfFields fields + 1
  | _ => 0

/-- The greatest depth among the items. -/
def depthOfItems : List Json → Nat
  | [] => 0
  | item :: items => max item.depth (depthOfItems items)

/-- The greatest depth among the values of the fields. -/
def depthOfFields : List (String × Json) → Nat
  | [] => 0
  | (_, value) :: fields => max value.depth (depthOfFields fields)

end

mutual

/-- Whether every token of the value denotes something. -/
def isReadable : Json → Bool
  | unreadable => false
  | arr items => areReadable items
  | obj fields => fieldsAreReadable fields
  | _ => true

/-- Whether every item is readable. -/
def areReadable : List Json → Bool
  | [] => true
  | item :: items => item.isReadable && areReadable items

/-- Whether the value of every field is readable. -/
def fieldsAreReadable : List (String × Json) → Bool
  | [] => true
  | (_, value) :: fields => value.isReadable && fieldsAreReadable fields

end

/-- How deep arrays and objects may be nested in a document, where that is limited. -/
def depthLimit : Nat := 127

/-- Whether the value can be read as a whole before it is decoded: every token of it is readable,
and it is not nested too deeply within as many arrays and objects as there are around it. -/
def isWhole (around : Nat) (json : Json) : Bool :=
  json.isReadable && decide (around + json.depth ≤ depthLimit)

end Json

end VisualNovel
