/-
# Reading JSON text

A text is one value with blanks around it. Blanks are the space, the tab and the two line breaks.
Strings hold no raw control characters; a number has no superfluous leading zero, and digits on both
sides of its point. A strict reader refuses a value that denotes nothing, and deep nesting; a
lenient one keeps such a value as unreadable. Every level of nesting takes at least one character,
and so does every item, so the length of the text is fuel enough.
-/

import VisualNovel.Json.Fault
import VisualNovel.Numeral

namespace VisualNovel.Json

open Text Number

/-- A reader of a value of type `α` from the front of a text. -/
abbrev Scan (α : Type) := List Char → Except Fault (α × List Char)

/-- How strictly a text is read. -/
inductive Strictness
  | lenient
  /-- Every value has to denote something, and so many more arrays and objects may be nested. -/
  | strict (room : Nat)

namespace Strictness

/-- Whether every value has to denote something. -/
def isStrict : Strictness → Bool
  | lenient => false
  | strict _ => true

/-- How the items of one more array or object are read, if it may be nested. -/
def inner? : Strictness → Option Strictness
  | lenient => some lenient
  | strict 0 => none
  | strict (room + 1) => some (strict room)

/-- Strictness for a whole document. -/
def document : Strictness := strict depthLimit

end Strictness

namespace Parser

variable {α : Type}

/-- Refuses what is left of the text for its first byte. -/
def refuse (flaw : Flaw) : Scan α := fun rest => .error ⟨flaw, rest, 1⟩

/-- A blank between tokens. -/
def isJsonBlank (c : Char) : Bool := c == ' ' || c == '\t' || c == '\n' || c == '\r'

/-- The rest after blanks. -/
def skipBlanks (rest : List Char) : List Char := rest.dropWhile isJsonBlank

/-- The value of four hexadecimal digits. -/
def hexQuad? (a b c d : Char) : Option Nat := do
  let a ← Numeral.hexValue? a
  let b ← Numeral.hexValue? b
  let c ← Numeral.hexValue? c
  let d ← Numeral.hexValue? d
  return ((a * 16 + b) * 16 + c) * 16 + d

/-- What one character after a backslash stands for. -/
def simpleEscape? : Char → Option Char
  | '"' => some '"'
  | '\\' => some '\\'
  | '/' => some '/'
  | 'b' => some '\x08'
  | 'f' => some '\x0c'
  | 'n' => some '\n'
  | 'r' => some '\r'
  | 't' => some '\t'
  | _ => none

/-- What has been read of a string. -/
structure StringState where
  /-- The characters, latest first, unless an escape denotes nothing. -/
  found : Option (List Char) := some []
  /-- The offset of the high half of a surrogate pair that waits for its low half. -/
  high : Option Nat := none

namespace StringState

/-- The state after something else than the low half of a pair, which leaves a waiting high half
alone. -/
def settled (state : StringState) : StringState :=
  if state.high.isSome then { found := none } else state

/-- The state after one more character. -/
def push (state : StringState) (c : Char) : StringState :=
  { found := state.settled.found.map (c :: ·) }

/-- The state after an escape with the given code of 16 bits, and whether the escape is in its
place. -/
def pushCode (state : StringState) (code : Nat) : StringState × Bool :=
  if 0xDC00 ≤ code && code ≤ 0xDFFF then
    match state.high with
    | some high =>
      let c := Char.ofNat (0x10000 + high * 0x400 + (code - 0xDC00))
      ({ found := state.found.map (c :: ·) }, true)
    | none => ({ found := none }, false)
  else
    let inPlace := state.high.isNone
    if 0xD800 ≤ code && code ≤ 0xDBFF then
      ({ state.settled with high := some (code - 0xD800) }, inPlace)
    else (state.push (Char.ofNat code), inPlace)

/-- The text of a string that ends here. -/
def text? (state : StringState) : Option String :=
  state.settled.found.map fun found => String.ofList found.reverse

end StringState

/-- Refuses the digits of an escape. Four bytes are taken for them, if there are so many. -/
def refuseDigits : Scan α := fun rest =>
  if 4 ≤ (String.ofList (rest.take 4)).utf8ByteSize then .error ⟨.badEscape, rest, 4⟩
  else .error ⟨.endInString, [], 0⟩

/-- A string from within: the text, unless the string denotes none. Where that has to be refused, it
is refused at once. -/
def stringFrom (isStrict : Bool) (state : StringState) : Scan (Option String)
  | [] => refuse .endInString []
  | ['\\'] => refuse .endInString []
  | '\\' :: 'u' :: a :: b :: c :: d :: rest =>
    match hexQuad? a b c d with
    | none => refuseDigits (a :: b :: c :: d :: rest)
    | some code =>
      let (state, inPlace) := state.pushCode code
      if isStrict && !inPlace then .error ⟨.halfPair, rest, 0⟩
      else stringFrom isStrict state rest
  | '\\' :: 'u' :: rest => refuseDigits rest
  | '\\' :: c :: rest =>
    if isStrict && state.high.isSome then refuse .pairBroken (c :: rest)
    else
      match simpleEscape? c with
      | some c => stringFrom isStrict (state.push c) rest
      | none => refuse .badEscape (c :: rest)
  | c :: rest =>
    if isStrict && state.high.isSome then refuse .pairBroken (c :: rest)
    else if c = '"' then .ok (state.text?, rest)
    else if c.toNat < 0x20 then refuse .control (c :: rest)
    else stringFrom isStrict (state.push c) rest

/-- A string after its opening quote. -/
def string (strictness : Strictness) : Scan (Option String) :=
  stringFrom strictness.isStrict {}

/-- Digits, at least one. -/
def digits : Scan (List Char) := fun rest =>
  match rest.takeWhile isAsciiDigit with
  | [] => refuse (if rest.isEmpty then .endInValue else .badNumber) rest
  | found => .ok (found, rest.dropWhile isAsciiDigit)

/-- The digits before the point: a zero alone, or digits that start with another one. -/
def integerDigits : Scan (List Char)
  | '0' :: c :: rest =>
    if isAsciiDigit c then refuse .badNumber (c :: rest) else .ok (['0'], c :: rest)
  | rest => digits rest

/-- The digits after the point, if there is a point. -/
def fractionDigits : Scan (Option (List Char))
  | '.' :: rest => do
    let (found, rest) ← digits rest
    return (some found, rest)
  | rest => .ok (none, rest)

/-- Removes a minus, and says whether there was one. -/
def splitMinus : List Char → Bool × List Char
  | '-' :: rest => (true, rest)
  | rest => (false, rest)

/-- The number that decimal digits denote. -/
def numberOf (digits : List Char) : Nat :=
  digits.foldl (fun n c => n * 10 + Numeral.digitValue c) 0

/-- The greatest exponent that is counted; a greater one is out of every range. -/
def greatestExponent : Nat := 0x7FFFFFFF

/-- The part of a number after the mark of its exponent. -/
structure Exponent where
  negative : Bool
  digits : List Char
  /-- What is left of the text behind the exponent, or behind the digit that makes it too great. -/
  last : List Char

namespace Exponent

/-- The value of the exponent. -/
def value (exponent : Exponent) : Int :=
  if exponent.negative then -(numberOf exponent.digits : Int) else numberOf exponent.digits

/-- How many of the digits there are up to the one that makes the exponent too great. -/
def counted (digits : List Char) : Nat :=
  ((List.range digits.length).find? fun n => greatestExponent < numberOf (digits.take n)).getD
    digits.length

/-- An exponent after its mark. -/
def scan : Scan Exponent := fun rest => do
  let (negative, rest) := match rest with
    | '+' :: rest => (false, rest)
    | rest => splitMinus rest
  let (found, after) ← Parser.digits rest
  return ({ negative, digits := found, last := rest.drop (counted found) }, after)

end Exponent

/-- The exponent, if there is one. -/
def exponent : Scan (Option Exponent)
  | c :: rest =>
    if c == 'e' || c == 'E' then do
      let (found, rest) ← Exponent.scan rest
      return (some found, rest)
    else .ok (none, c :: rest)
  | [] => .ok (none, [])

/-- The least significand that is too large to be kept. -/
def significandBound : Nat := 0x10000000000000000

/-- Takes digits into the significand for as long as it fits into 64 bits, and counts how many were
taken. Once a digit does not fit, it and the digits behind it are dropped. -/
def accumulate (significand taken : Nat) : List Char → Nat × Nat
  | [] => (significand, taken)
  | c :: rest =>
    let next := significand * 10 + Numeral.digitValue c
    if next < significandBound then accumulate next (taken + 1) rest else (significand, taken)

/-- The decimal written with the given digits. -/
def decimalOf (negative : Bool) (whole fraction : List Char) (exponent : Int) : Decimal :=
  let (significand, taken) := accumulate 0 0 whole
  let (significand, places) := accumulate significand 0 fraction
  ⟨negative, significand, exponent + (whole.length - taken : Nat) - places⟩

/-- The value of a number literal. -/
def valueOfNumber (negative : Bool) (whole : List Char) (fraction : Option (List Char))
    (exponent : Option Exponent) : Json :=
  let magnitude := numberOf whole
  let signed : Int := if negative then -(magnitude : Int) else magnitude
  if fraction.isNone && exponent.isNone && leastInteger ≤ signed && signed ≤ greatestInteger
      && !(negative && magnitude == 0) then
    .int signed
  else
    let literal :=
      decimalOf negative whole (fraction.getD []) ((exponent.map Exponent.value).getD 0)
    if literal.toFloat?.isSome then .decimal literal else .unreadable

/-- A number. -/
def number (strictness : Strictness) : Scan Json := fun text => do
  let (negative, rest) := splitMinus text
  let (whole, rest) ← integerDigits rest
  let (fraction, rest) ← fractionDigits rest
  let (exponent, rest) ← exponent rest
  match valueOfNumber negative whole fraction exponent with
  | .unreadable =>
    if strictness.isStrict then .error ⟨.hugeNumber, (exponent.map Exponent.last).getD rest, 0⟩
    else .ok (.unreadable, rest)
  | found => .ok (found, rest)

/-- The rest of a word that stands for a value. -/
def word (found : Json) : List Char → Scan Json
  | [], rest => .ok (found, rest)
  | _ :: _, [] => refuse .endInValue []
  | c :: expected, d :: rest =>
    if d = c then word found expected rest else refuse .unknownWord (d :: rest)

/-- The items of a list from its next item on, those before it given latest first. -/
def itemsFrom (item : Scan α) (fuel : Nat) (before : List α) : Scan (List α) := fun text =>
  match fuel with
  | 0 => refuse .endInList text
  | fuel + 1 =>
    match item text with
    | .error fault => .error fault
    | .ok (found, rest) =>
      match skipBlanks rest with
      | [] => refuse .endInList []
      | ']' :: rest => .ok ((found :: before).reverse, rest)
      | ',' :: rest =>
        match skipBlanks rest with
        | [] => refuse .endInValue []
        | ']' :: rest => refuse .trailingComma (']' :: rest)
        | rest => itemsFrom item fuel (found :: before) rest
      | rest => refuse .listGoesOn rest

/-- The items of a list after its opening bracket. -/
def list (fuel : Nat) (item : Scan α) : Scan (List α) := fun text =>
  match skipBlanks text with
  | [] => refuse .endInList []
  | ']' :: rest => .ok ([], rest)
  | rest => itemsFrom item fuel [] rest

/-- The fields of an object from the name of its next field on, after the opening quote, those
before it given latest first. -/
def fieldsFrom (strictness : Strictness) (item : Scan α) (fuel : Nat)
    (before : List (Option String × α)) : Scan (List (Option String × α)) := fun text =>
  match fuel with
  | 0 => refuse .endInObject text
  | fuel + 1 =>
    match string strictness text with
    | .error fault => .error fault
    | .ok (name, rest) =>
      match skipBlanks rest with
      | [] => refuse .endInObject []
      | ':' :: rest =>
        match item rest with
        | .error fault => .error fault
        | .ok (found, rest) =>
          match skipBlanks rest with
          | [] => refuse .endInObject []
          | '\x7d' :: rest => .ok (((name, found) :: before).reverse, rest)
          | ',' :: rest =>
            match skipBlanks rest with
            | [] => refuse .endInValue []
            | '"' :: rest => fieldsFrom strictness item fuel ((name, found) :: before) rest
            | '\x7d' :: rest => refuse .trailingComma ('\x7d' :: rest)
            | rest => refuse .nameNotString rest
          | rest => refuse .objectGoesOn rest
      | rest => refuse .colonMissing rest

/-- The fields of an object after its opening brace. The name of a field is nothing if it denotes
nothing. -/
def fields (strictness : Strictness) (fuel : Nat) (item : Scan α) :
    Scan (List (Option String × α)) := fun text =>
  match skipBlanks text with
  | [] => refuse .endInObject []
  | '\x7d' :: rest => .ok ([], rest)
  | '"' :: rest => fieldsFrom strictness item fuel [] rest
  | rest => refuse .nameNotString rest

/-- The object of the given fields. A name that denotes nothing leaves the object unreadable. -/
def objectOf (fields : List (Option String × Json)) : Json :=
  match fields.mapM fun (name?, value) => name?.map (·, value) with
  | some fields => .obj fields
  | none => .unreadable

/-- A value, with `fuel` bounding its depth and the length of its arrays and objects. -/
def value (fuel : Nat) (strictness : Strictness) : Scan Json := fun text =>
  match fuel with
  | 0 => refuse .valueMissing text
  | fuel + 1 =>
    match skipBlanks text with
    | [] => refuse .endInValue []
    | 'n' :: rest => word .null ['u', 'l', 'l'] rest
    | 't' :: rest => word (.bool true) ['r', 'u', 'e'] rest
    | 'f' :: rest => word (.bool false) ['a', 'l', 's', 'e'] rest
    | '"' :: rest => do
      let (found, rest) ← string strictness rest
      return ((found.map Json.str).getD .unreadable, rest)
    | '[' :: rest =>
      match strictness.inner? with
      | none => refuse .tooDeep ('[' :: rest)
      | some inner => do
        let (found, rest) ← list fuel (value fuel inner) rest
        return (.arr found, rest)
    | '\x7b' :: rest =>
      match strictness.inner? with
      | none => refuse .tooDeep ('\x7b' :: rest)
      | some inner => do
        let (found, rest) ← fields inner fuel (value fuel inner) rest
        return (objectOf found, rest)
    | c :: rest =>
      if c == '-' || isAsciiDigit c then number strictness (c :: rest)
      else refuse .valueMissing (c :: rest)

/-- Refuses anything but blanks. -/
def finish (rest : List Char) : Except Fault Unit :=
  match skipBlanks rest with
  | [] => .ok ()
  | rest => .error ⟨.trailingText, rest, 1⟩

end Parser

/-- The value at the front of a text. -/
def scan (strictness : Strictness) : Scan Json := fun text =>
  Parser.value (text.length + 1) strictness text

/-- The value that a text is, if it is one. -/
def parse? (text : String) : Option Json :=
  match scan .lenient text.toList with
  | .ok (json, rest) => if rest.all Parser.isJsonBlank then some json else none
  | .error _ => none

example : (match scan .document "[1,\n 2,]".toList with
    | .error fault => some (fault.locate "[1,\n 2,]").message
    | .ok _ => none) = some "trailing comma at line 2 column 4" := by decide +kernel

end VisualNovel.Json
