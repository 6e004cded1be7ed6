/-
# Writing JSON text

A value is written on one line without blanks, or indented by two spaces per level with one item or
field on a line; empty arrays and objects stay closed up. Strings escape the quote, the backslash
and the controls, and nothing else. A decimal always shows that it is no integer: it is written
positionally with a point while its exponent is moderate, and with an exponent otherwise.
-/

import VisualNovel.Json.Basic

namespace VisualNovel.Json

open Number

namespace Printer

/-- Four hexadecimal digits of a code below 65536. -/
def hexQuad (code : Nat) : List Char :=
  [code / 4096, code / 256 % 16, code / 16 % 16, code % 16].map Nat.digitChar

/-- A character as it stands in a string. -/
def escaped (c : Char) : List Char :=
  match c with
  | '"' => ['\\', '"']
  | '\\' => ['\\', '\\']
  | '\n' => ['\\', 'n']
  | '\r' => ['\\', 'r']
  | '\t' => ['\\', 't']
  | '\x08' => ['\\', 'b']
  | '\x0c' => ['\\', 'f']
  | c => if c.toNat < 0x20 then '\\' :: 'u' :: hexQuad c.toNat else [c]

/-- A string in quotes. -/
def string (text : String) : String :=
  "\"" ++ String.ofList (text.toList.flatMap escaped) ++ "\""

/-- Which decimals are written positionally. -/
structure Positional where
  /-- The largest number of digits before the point. -/
  wholeDigits : Int
  /-- The largest number of zeros that follow the point before the first digit. -/
  leadingZeros : Int

/-- Positional decimals of singles. -/
def Positional.single : Positional := ⟨13, 5⟩

/-- Positional decimals of doubles. -/
def Positional.double : Positional := ⟨16, 4⟩

/-- A decimal, positionally or with an exponent. -/
def decimal (positional : Positional) (literal : Decimal) : String :=
  let sign := if literal.negative then "-" else ""
  let digits := (toString literal.significand).toList
  let point : Int := digits.length + literal.exponent
  if literal.significand = 0 then sign ++ "0.0"
  else if 0 ≤ literal.exponent && point ≤ positional.wholeDigits then
    sign ++ String.ofList (digits ++ List.replicate literal.exponent.toNat '0') ++ ".0"
  else if 0 < point && point ≤ positional.wholeDigits then
    sign ++ String.ofList (digits.take point.toNat ++ '.' :: digits.drop point.toNat)
  else if -positional.leadingZeros ≤ point && point ≤ 0 then
    sign ++ "0." ++ String.ofList (List.replicate point.natAbs '0' ++ digits)
  else
    let mantissa := match digits with
      | [] => []
      | [d] => [d]
      | d :: rest => d :: '.' :: rest
    let exponent := point - 1
    sign ++ String.ofList mantissa ++ (if exponent < 0 then "e-" else "e+")
      ++ toString exponent.natAbs

/-- The start of a line at the given level of indentation. -/
def newline (level : Nat) : String :=
  "\n" ++ String.ofList (List.replicate (2 * level) ' ')

mutual

/-- Writes a value behind `out` on the same line. -/
def compact (out : String) : Json → String
  | .null | .unreadable => out ++ "null"
  | .bool true => out ++ "true"
  | .bool false => out ++ "false"
  | .int value => out ++ toString value
  | .decimal literal => out ++ decimal .single literal
  | .str text => out ++ string text
  | .arr [] => out ++ "[]"
  | .arr (item :: items) => compactItems (compact (out ++ "[") item) items ++ "]"
  | .obj [] => out ++ "\x7b\x7d"
  | .obj ((name, value) :: fields) =>
    compactFields (compact (out ++ "\x7b" ++ string name ++ ":") value) fields ++ "\x7d"

/-- Writes further items of an array behind `out`. -/
def compactItems (out : String) : List Json → String
  | [] => out
  | item :: items => compactItems (compact (out ++ ",") item) items

/-- Writes further fields of an object behind `out`. -/
def compactFields (out : String) : List (String × Json) → String
  | [] => out
  | (name, value) :: fields =>
    compactFields (compact (out ++ "," ++ string name ++ ":") value) fields

end

mutual

/-- Writes a value behind `out` over several lines, its own start standing at the given level. -/
def pretty (level : Nat) (out : String) : Json → String
  | .arr [] => out ++ "[]"
  | .arr (item :: items) =>
    prettyItems (level + 1) (pretty (level + 1) (out ++ "[" ++ newline (level + 1)) item) items
      ++ newline level ++ "]"
  | .obj [] => out ++ "\x7b\x7d"
  | .obj ((name, value) :: fields) =>
    prettyFields (level + 1)
      (pretty (level + 1) (out ++ "\x7b" ++ newline (level + 1) ++ string name ++ ": ") value)
      fields ++ newline level ++ "\x7d"
  | .null | .unreadable => out ++ "null"
  | .bool true => out ++ "true"
  | .bool false => out ++ "false"
  | .int value => out ++ toString value
  | .decimal literal => out ++ decimal .single literal
  | .str text => out ++ string text

/-- Writes further items of an array behind `out`, each on a line of its own. -/
def prettyItems (level : Nat) (out : String) : List Json → String
  | [] => out
  | item :: items =>
    prettyItems level (pretty level (out ++ "," ++ newline level) item) items

/-- Writes further fields of an object behind `out`, each on a line of its own. -/
def prettyFields (level : Nat) (out : String) : List (String × Json) → String
  | [] => out
  | (name, value) :: fields =>
    prettyFields level (pretty level (out ++ "," ++ newline level ++ string name ++ ": ") value)
      fields

end

end Printer

/-- The value on one line. -/
def compact (json : Json) : String := Printer.compact "" json

/-- The value over several lines. -/
def pretty (json : Json) : String := Printer.pretty 0 "" json

end VisualNovel.Json
