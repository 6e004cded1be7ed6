/-
# What is wrong with a text that is no JSON

A reader stops at the first byte that cannot be part of what it reads, and says why and where. The
place is given by the line and by the column, which counts the bytes of the line up to that byte.
The text may also be JSON and have a value of another kind than is asked for; then the place is
where the value ends, or where it starts if it is a list or an object.
-/

import VisualNovel.Json.Basic

namespace VisualNovel.Json

/-- What can be wrong at a place of a text. -/
inductive Flaw
  /-- The text ends within a list. -/
  | endInList
  /-- The text ends within an object. -/
  | endInObject
  /-- The text ends within a string. -/
  | endInString
  /-- The text ends within a value, or where one is needed. -/
  | endInValue
  | colonMissing
  /-- A list goes on with something else than a comma. -/
  | listGoesOn
  /-- An object goes on with something else than a comma. -/
  | objectGoesOn
  /-- A word is not one of the three that are values. -/
  | unknownWord
  | valueMissing
  | badEscape
  | badNumber
  /-- The number is beyond the largest double. -/
  | hugeNumber
  /-- A control character stands in a string. -/
  | control
  /-- The name of a field is not a string. -/
  | nameNotString
  /-- Half a surrogate pair stands by itself. -/
  | halfPair
  /-- After half a surrogate pair there is no further escape. -/
  | pairBroken
  | trailingComma
  /-- Something follows the value. -/
  | trailingText
  /-- Arrays and objects are nested too deeply. -/
  | tooDeep
  /-- A value is of another kind than the expected one. -/
  | mistyped (found expected : String)
  /-- A value is of the expected kind, and not in its range. -/
  | outOfRange (found expected : String)
  deriving DecidableEq, Repr

/-- The flaw in words. -/
def Flaw.message : Flaw → String
  | endInList => "EOF while parsing a list"
  | endInObject => "EOF while parsing an object"
  | endInString => "EOF while parsing a string"
  | endInValue => "EOF while parsing a value"
  | colonMissing => "expected `:`"
  | listGoesOn => "expected `,` or `]`"
  | objectGoesOn => "expected `,` or `\x7d`"
  | unknownWord => "expected ident"
  | valueMissing => "expected value"
  | badEscape => "invalid escape"
  | badNumber => "invalid number"
  | hugeNumber => "number out of range"
  | control => "control character (\\u0000-\\u001F) found while parsing a string"
  | nameNotString => "key must be a string"
  | halfPair => "lone leading surrogate in hex escape"
  | pairBroken => "unexpected end of hex escape"
  | trailingComma => "trailing comma"
  | trailingText => "trailing characters"
  | tooDeep => "recursion limit exceeded"
  | mistyped found expected => "invalid type: " ++ found ++ ", expected " ++ expected
  | outOfRange found expected => "invalid value: " ++ found ++ ", expected " ++ expected

/-- A flaw as the reader meets it. -/
structure Fault where
  flaw : Flaw
  /-- What is left of the text. -/
  rest : List Char
  /-- How many bytes of what is left belong to the flaw, if there are so many. -/
  ahead : Nat

/-- A flaw and its place in the text. -/
structure TextError where
  flaw : Flaw
  line : Nat
  column : Nat
  deriving DecidableEq, Repr

/-- The error in words. -/
def TextError.message (error : TextError) : String :=
  error.flaw.message ++ " at line " ++ toString error.line ++ " column " ++ toString error.column

/-- The line and the column after so many bytes of a text, with those before it given. -/
def placeAfter (bytes line column : Nat) : List Char → Nat × Nat
  | [] => (line, column)
  | c :: rest =>
    if bytes = 0 then (line, column)
    else if c = '\n' then placeAfter (bytes - 1) (line + 1) 0 rest
    else placeAfter (bytes - c.utf8Size) line (column + min bytes c.utf8Size) rest

/-- The fault with its place in the text. -/
def Fault.locate (fault : Fault) (text : String) : TextError :=
  let bytes := text.utf8ByteSize - (String.ofList fault.rest).utf8ByteSize + fault.ahead
  let (line, column) := placeAfter bytes 1 0 text.toList
  { flaw := fault.flaw, line, column }

example : (Fault.mk .valueMissing "x]".toList 1).locate "[1,\n é, x]" =
    { flaw := .valueMissing, line := 2, column := 6 } := by decide +kernel

end VisualNovel.Json
