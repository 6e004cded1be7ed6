/-
# Escapes in patterns

A backslash takes the meaning from a sign or gives one to a letter: a character by its number, a
class of characters, or a condition on a place. What has no meaning now is refused, so that it may
get one later.
-/

import VisualNovel.Numeral
import VisualNovel.Pattern.Cursor

namespace VisualNovel.Pattern

open Scan

/-- Whether a character is a sign with a meaning of its own, or one that may get one. -/
def isMeta (c : Char) : Bool := "\\.+*?()|[]\x7b\x7d^$#&-~".toList.contains c

/-- Whether a backslash before a character makes it stand for itself. These are the signs and all
other ASCII characters but letters, digits and angle brackets. -/
def standsForItself (c : Char) : Bool :=
  isMeta c || (c.toNat < 0x80 && !c.isAlphanum && c != '<' && c != '>')

/-- The control character that a letter stands for. -/
def control? : Char → Option Char
  | 'a' => some '\x07'
  | 'f' => some '\x0c'
  | 't' => some '\t'
  | 'n' => some '\n'
  | 'r' => some '\r'
  | 'v' => some '\x0b'
  | _ => none

/-- The condition on a place that a letter stands for. -/
def condition? : Char → Option Condition
  | 'A' => some .textStart
  | 'z' => some .textEnd
  | 'b' => some .wordBound
  | 'B' => some .noWordBound
  | '<' => some .wordStart
  | '>' => some .wordEnd
  | _ => none

/-- The character with the number, which the span gives. -/
def charOfNumber (span : Span) (isByte : Bool) (number : Nat) : Scan Atom :=
  if h : number.isValidChar then return .literal (Char.ofNatAux number h) isByte
  else refuse .hexNoCharacter span

/-- The value of the next hexadecimal digit. -/
def hexDigit (c : Char) : Scan Nat :=
  match Numeral.hexValue? c with
  | some value => return value
  | none => refuseSign .hexDigit

/-- A number of so many hexadecimal digits, of which the first ones have been read. -/
def fixedHex : (count : Nat) → (before : Nat) → Scan Nat
  | 0, number => return number
  | count + 1, before => do
    match ← next? with
    | none => refuseHere .escapeCut
    | some c =>
      let value ← hexDigit c
      skip
      fixedHex count (before * 16 + value)

/-- The hexadecimal digits after an opening brace and up to the closing one. -/
def bracedHex (brace : Place) : (fuel : Nat) → (before : List Nat) → Scan (List Nat)
  | 0, _ => refuseSince .escapeCut brace
  | fuel + 1, before => do
    skip
    match ← next? with
    | none => refuseSince .escapeCut brace
    | some '\x7d' => return before.reverse
    | some c => bracedHex brace fuel ((← hexDigit c) :: before)

/-- The character whose number follows the mark, which has so many digits unless it is in braces. -/
def hex (digits : Nat) : Scan Atom := do
  skip
  let start ← here
  match ← next? with
  | none => refuseHere .escapeCut
  | some '\x7b' =>
    let first := (← signSpan).stop
    let values ← bracedHex start ((← remaining) + 1) []
    let last ← here
    skip
    if values.isEmpty then refuseSince .hexEmpty start
    else charOfNumber ⟨first, last⟩ false (values.foldl (fun n value => n * 16 + value) 0)
  | some _ =>
    let number ← fixedHex digits 0
    charOfNumber ⟨start, ← here⟩ (digits = 2) number

/-- The name of a property after an opening brace and up to the closing one. -/
def bracedName : (fuel : Nat) → (before : List Char) → Scan (List Char)
  | 0, _ => refuseHere .escapeCut
  | fuel + 1, before => do
    skip
    match ← next? with
    | none => refuseHere .escapeCut
    | some '\x7d' => return before.reverse
    | some c => bracedName fuel (c :: before)

/-- The parts of a name before and after the first separator in it. -/
def splitAt? (separator : List Char) : List Char → Option (List Char × List Char)
  | [] => none
  | c :: rest =>
    if separator.isPrefixOf (c :: rest) then some ([], (c :: rest).drop separator.length)
    else (splitAt? separator rest).map fun (before, behind) => (c :: before, behind)

/-- The property with the name, which may have a value. -/
def PropertyName.ofText (text : List Char) : PropertyName :=
  match [['!', '='], [':'], ['=']].findSome? (splitAt? · text) with
  | some (name, value) => .valued (String.ofList name) (String.ofList value)
  | none => .plain (String.ofList text)

/-- The property whose name follows the mark, in braces unless it is one letter. -/
def property (negated : Bool) : Scan Atom := do
  skip
  match ← next? with
  | none => refuseHere .escapeCut
  | some '\x7b' =>
    let name ← bracedName ((← remaining) + 1) []
    bump
    return .property negated (.ofText name)
  | some '\\' => refuseSign .propertyInvalid
  | some c =>
    skip
    return .property negated (.plain (String.singleton c))

/-- The special boundaries of words by their names. -/
def boundaries : List (String × Condition) :=
  [("start", .wordStart), ("end", .wordEnd), ("start-half", .wordStartHalf),
    ("end-half", .wordEndHalf)]

/-- Whether a character may be part of such a word. -/
def isBoundaryChar (c : Char) : Bool := c.isAlpha || c == '-'

/-- The word of a boundary in braces. -/
def boundaryWord : (fuel : Nat) → (before : List Char) → Scan (List Char)
  | 0, before => return before.reverse
  | fuel + 1, before => do
    match ← next? with
    | none => return before.reverse
    | some c =>
      if isBoundaryChar c then
        skip
        boundaryWord fuel (c :: before)
      else return before.reverse

/-- The boundary of words after the escape that starts at the place, which is a special one with its
name in braces. Braces with something else in them are left for a repetition. -/
def boundary (start : Place) : Scan Condition := do
  let before ← get
  skip
  match ← next? with
  | none => refuseSince .boundaryCut start
  | some c =>
    if !isBoundaryChar c then
      returnTo before
      return .wordBound
    else
      let first ← here
      let word ← boundaryWord (← remaining) []
      if (← next?) ≠ some '\x7d' then refuseSince .boundaryUnclosed before.place
      else
        match boundaries.lookup (String.ofList word) with
        | none => refuseSince .boundaryUnknown first
        | some condition =>
          bump
          return condition

/-- The atom of an escape by the character after its backslash, which starts at the place. -/
def escapeAtom (start : Place) (c : Char) : Scan Atom := do
  let span : Span := ⟨start, (start.after '\\').after c⟩
  if c.isDigit then refuse .backreference span
  else if c = 'x' then hex 2
  else if c = 'u' then hex 4
  else if c = 'U' then hex 8
  else if c = 'p' || c = 'P' then property (c = 'P')
  else
    bump
    if standsForItself c then return .literal c false
    else if c = 'b' && (← next?) = some '\x7b' then return .assertion (← boundary start)
    else
      match condition? c, Shorthand.ofLetter? c.toLower, control? c with
      | some condition, _, _ => return .assertion condition
      | none, some chars, _ => return .shorthand chars c.isUpper
      | none, none, some char => return .literal char false
      | none, none, none => refuse .escapeUnknown span

/-- An escape. -/
def escape : Scan Sign := do
  let start ← here
  bump
  match ← next? with
  | none => refuseSince .escapeCut start
  | some c =>
    let atom ← escapeAtom start c
    return { span := ⟨start, ← here⟩, atom }

end VisualNovel.Pattern
