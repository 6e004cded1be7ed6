/-
# Parameters of a directive

A directive captures its parameters as groups of raw text. A group that took no part in the match
and a group that is blank count alike: the parameter is missing. What is not missing is used without
its blank ends, as text or as an integer of the range that its use calls for.
-/

import VisualNovel.Numeral

namespace VisualNovel.Script

/-- The raw text of one parameter, absent where it took no part in the match. -/
abbrev Parameter := Option (List Char)

namespace Parameter

/-- The trimmed text of a parameter that is not missing. -/
def visible? (parameter : Parameter) : Option (List Char) :=
  parameter.bind Text.visible?

/-- The trimmed text, empty for a missing parameter. -/
def text (parameter : Parameter) : List Char :=
  parameter.visible?.getD []

/-- The parameter as an integer of the range, zero for a missing one. -/
def number (range : IntRange) (parameter : Parameter) : Int :=
  match parameter.visible? with
  | none => 0
  | some numeral => Numeral.clamped range numeral

/-- The parameter as an unsigned word. -/
def toUInt32 (parameter : Parameter) : UInt32 :=
  UInt32.ofNat (parameter.number (.unsigned 32)).toNat

/-- The parameter as a signed word. -/
def toInt32 (parameter : Parameter) : Int32 :=
  Int32.ofInt (parameter.number (.signed 32))

end Parameter

/-- The number of parameters that are not missing. -/
def presentCount (parameters : List Parameter) : Nat :=
  parameters.countP (·.visible?.isSome)

end VisualNovel.Script
