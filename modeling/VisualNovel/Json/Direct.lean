/-
# Decoding while reading

Where every value of a text is of one known type, a text can be decoded without making values of it
first. A value of another type is then refused where it stands, even if the text is no JSON further
on.
-/

import VisualNovel.Json.Parser
import VisualNovel.Json.Printer
import VisualNovel.Number.Shortest
import VisualNovel.Text.Quoted

namespace VisualNovel.Json

open Number

/-- The value in the words of a message, which shows numbers and texts and names the rest. -/
def inWords : Json → String
  | null => "null"
  | bool value => "boolean `" ++ toString value ++ "`"
  | int value => "integer `" ++ toString value ++ "`"
  | decimal literal =>
    match literal.toFloat?.bind shortestDecimalOfDouble? with
    | some shortest => "floating point `" ++ Printer.decimal .double shortest ++ "`"
    | none => "floating point"
  | str text => "string " ++ Text.quotedString text
  | arr _ => "sequence"
  | obj _ => "map"
  | unreadable => "unreadable"

namespace Direct

variable {α : Type}

/-- A value that is no list and no object. -/
def leaf : Scan Json := Parser.value 1 (.strict 0)

/-- Refuses a value of another type. A list or an object is refused at its start. -/
def mistyped (expected : String) : Scan α := fun text => do
  match Parser.skipBlanks text with
  | '[' :: rest => .error ⟨.mistyped (arr []).inWords expected, '[' :: rest, 0⟩
  | '\x7b' :: rest => .error ⟨.mistyped (obj []).inWords expected, '\x7b' :: rest, 0⟩
  | rest =>
    let (found, rest) ← leaf rest
    .error ⟨.mistyped found.inWords expected, rest, 0⟩

/-- A natural number of 64 bits. -/
def uint64 : Scan UInt64 := fun text =>
  match leaf text with
  | .ok (.int value, rest) =>
    if 0 ≤ value then .ok (UInt64.ofNat value.toNat, rest)
    else .error ⟨.outOfRange (int value).inWords "u64", rest, 0⟩
  | _ => mistyped "u64" text

/-- An object whose values are all of one type. -/
def map (item : Scan α) : Scan (List (String × α)) := fun text =>
  match Parser.skipBlanks text with
  | '\x7b' :: rest => do
    let (fields, rest) ← Parser.fields .document text.length item rest
    return (fields.filterMap fun (name?, value) => name?.map (·, value), rest)
  | rest => mistyped "a map" rest

end Direct

end VisualNovel.Json
