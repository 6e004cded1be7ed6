/-
# Reading patterns

A pattern is a sequence of parts, or several of them with bars between. A part is a sign, an escape,
a set in brackets, a group in parentheses, or one of these with a repetition behind it. What a group
turns on or off holds to its end, and so do flags that stand alone.
-/

import VisualNovel.Pattern.Bracket
import VisualNovel.Text.Letter

namespace VisualNovel.Pattern

open Scan

/-- The part of a pattern that is being read: a sequence and the branches in front of it. -/
structure Level where
  /-- Where the first branch starts. -/
  first : Place := {}
  /-- The branches so far, latest first. -/
  branches : List Pattern := []
  /-- Where the sequence starts. -/
  start : Place := {}
  /-- The parts of the sequence so far, latest first. -/
  parts : List Pattern := []

/-- A group whose closing parenthesis has not been read. -/
structure OpenGroup where
  /-- The span of the opening parenthesis. -/
  opening : Span
  captures : Bool
  flags : Flags
  /-- What the group is a part of. -/
  around : Level
  /-- Whether blanks are passed over around the group. -/
  verbose : Bool

namespace Level

/-- The level with one more part. -/
def push (level : Level) (part : Pattern) : Level := { level with parts := part :: level.parts }

/-- The sequence up to the place. -/
def sequence (level : Level) (stop : Place) : Pattern :=
  match level.parts with
  | [] => .empty level.start
  | [part] => part
  | parts => .sequence ⟨level.start, stop⟩ parts.reverse

/-- The level behind a bar, in front of which it ends at the place. -/
def branched (level : Level) (stop : Place) : Level :=
  { level with
    branches := level.sequence stop :: level.branches
    start := stop.after '|'
    parts := [] }

/-- All branches up to the place as one pattern. -/
def whole (level : Level) (stop : Place) : Pattern :=
  match level.branches with
  | [] => level.sequence stop
  | branches => .alternation ⟨level.first, stop⟩ (level.sequence stop :: branches).reverse

end Level

/-- The greatest number in a repetition. -/
def greatestCount : Nat := 0xFFFFFFFF

/-- The part in front of a repetition and the level without it. Flags are nothing to repeat. -/
def repeated (level : Level) : Scan (Pattern × Level) :=
  match level.parts with
  | [] | .flags _ _ :: _ => refuseHere .nothingToRepeat
  | part :: parts => return (part, { level with parts })

/-- The level with a repetition of a part, which ends here. -/
def pushRepetition (level : Level) (part : Pattern) (least : Nat) (most : Option Nat)
    (isLazy : Bool) : Scan Level := do
  return level.push (.repetition ⟨part.span.start, ← here⟩ least most isLazy part)

/-- Goes behind a question mark if it comes next, as it may behind every repetition, and says
whether it did. It makes the repetition lazy. -/
def lazyMark? : Scan Bool := do
  if (← next?) = some '?' then
    bump
    return true
  else return false

/-- A repetition by one sign. -/
def signRepetition (level : Level) (least : Nat) (most : Option Nat) : Scan Level := do
  let (part, level) ← repeated level
  bump
  pushRepetition level part least most (← lazyMark?)

/-- Goes behind blanks, which may stand on either side of a number everywhere. -/
def skipBlanks (advance : Scan Unit) : (fuel : Nat) → Scan Unit
  | 0 => return ()
  | fuel + 1 => do
    if ((← next?).map Text.isBlank).getD false then
      advance
      skipBlanks advance fuel

/-- The digits that come next. -/
def digits : (fuel : Nat) → (before : List Char) → Scan (List Char)
  | 0, before => return before.reverse
  | fuel + 1, before => do
    match ← next? with
    | some c =>
      if c.isDigit then
        skip
        digits fuel (c :: before)
      else return before.reverse
    | none => return before.reverse

/-- A number, or why there is none. It is for the caller to tell, after what comes behind it. -/
def count : Scan (Except Refusal Nat) := do
  skipBlanks bump (← remaining)
  let start ← here
  let found ← digits (← remaining) []
  let span : Span := ⟨start, ← here⟩
  skipBlanks skip (← remaining)
  let number := found.foldl (fun n c => n * 10 + Numeral.digitValue c) 0
  if found.isEmpty then return .error (.malformed .countEmpty span none)
  else if greatestCount < number then return .error (.malformed .countTooLarge span none)
  else return .ok number

/-- The numbers of a repetition behind its opening brace, which is at the place. -/
def counts (start : Place) : Scan (Nat × Option Nat) := do
  let unclosed : Scan Unit := do if (← next?).isNone then refuseSince .countUnclosed start
  skip
  unclosed
  let least ← count
  unclosed
  if (← next?) = some ',' then
    skip
    unclosed
    if (← next?) = some '\x7d' then return (← least, none)
    else
      let least ← least
      return (least, some (← (← count)))
  else
    let number ← least
    return (number, some number)

/-- A repetition by numbers in braces. -/
def countedRepetition (level : Level) : Scan Level := do
  let start ← here
  let (part, level) ← repeated level
  let (least, most) ← counts start
  if (← next?) ≠ some '\x7d' then refuseSince .countUnclosed start
  skip
  let isLazy ← lazyMark?
  if most.all (least ≤ ·) then pushRepetition level part least most isLazy
  else refuseSince .countOrder start

/-- Whether a character may be part of the name of a group, at its start or behind it. -/
def isNameChar (first : Bool) (c : Char) : Bool :=
  c == '_' || if first then Text.isLetter c
    else c == '.' || c == '[' || c == ']' || Text.isLetterOrNumeral c

/-- The name of a group up to its closing bracket. -/
def nameChars : (fuel : Nat) → (before : List Char) → Scan (List Char)
  | 0, _ => refuseHere .nameCut
  | fuel + 1, before => do
    match ← next? with
    | none => refuseHere .nameCut
    | some '>' => return before.reverse
    | some c =>
      if isNameChar before.isEmpty c then
        bump
        nameChars fuel (c :: before)
      else refuseSign .nameCharacter

/-- The name of a group, which no other group has. -/
def groupName : Scan Unit := do
  let start ← here
  let name ← nameChars ((← remaining) + 1) []
  let span : Span := ⟨start, ← here⟩
  bump
  if name.isEmpty then refuse .nameEmpty (.empty start)
  let name := String.ofList name
  match (← get).names.lookup name with
  | some earlier => throw (.malformed .nameTwice span (some earlier))
  | none => modify fun cursor => { cursor with names := (name, span) :: cursor.names }

/-- The flag with the letter that comes next. -/
def flagItem (c : Char) : Scan FlagItem :=
  if c = '-' then return .negation
  else
    match Flag.ofLetter? c with
    | some flag => return .flag flag
    | none => refuseSign .flagUnknown

/-- Flags up to a colon or a closing parenthesis, those before with their spans, latest first. -/
def flagItems : (fuel : Nat) → (before : List (FlagItem × Span)) →
    Scan (List (FlagItem × Span))
  | 0, before => return before
  | fuel + 1, before => do
    match ← next? with
    | none => refuseHere .flagCut
    | some c =>
      if c = ':' || c = ')' then return before
      else
        let item ← flagItem c
        let span ← signSpan
        match before.lookup item with
        | some earlier =>
          throw (.malformed (if item = .negation then .negationTwice else .flagTwice) span earlier)
        | none =>
          bump
          flagItems fuel ((item, span) :: before)

/-- Flags, of which the last one is not a negation. -/
def flagList : Scan Flags := do
  match ← flagItems ((← remaining) + 1) [] with
  | (.negation, span) :: _ => refuse .negationDangling span
  | items => return (items.map (·.1)).reverse

/-- Whether a condition on what surrounds a place comes next, which no pattern has. -/
def lookAround? : Scan Bool := do
  for form in ["?=", "?!", "?<=", "?<!"] do
    if ← word? form then return true
  return false

/-- What an opening parenthesis opens. -/
inductive Opened
  | group (opening : Span) (captures : Bool) (flags : Flags)
  /-- Flags without a group of their own. -/
  | alone (span : Span) (flags : Flags)

/-- Goes behind an opening parenthesis and what tells the kind of its group. -/
def openGroup : Scan Opened := do
  let opening ← signSpan
  skip
  if ← lookAround? then refuseSince .lookAround opening.start
  let inner ← here
  if ← word? "?P<" then
    groupName
    return .group opening true []
  else if ← word? "?<" then
    groupName
    return .group opening true []
  else if ← word? "?" then
    if (← next?).isNone then refuse .groupUnclosed opening
    let found ← flagList
    let closes := (← next?) = some ')'
    bump
    if !closes then return .group opening false found
    else if found.isEmpty then refuse .nothingToRepeat (.empty inner)
    else return .alone ⟨opening.start, ← here⟩ found
  else return .group opening true []

/-- Lets blanks be passed over or not as the flags say. -/
def setVerbose (found : Flags) : Scan Unit :=
  modify fun cursor =>
    { cursor with verbose := (found.state? .verbose).getD cursor.verbose }

/-- A sign, an escape or a set in brackets. -/
def single (c : Char) : Scan Pattern := do
  if c = '\\' then return .sign (← escape)
  else if c = '[' then return .charSet (← bracketed)
  else
    let span ← signSpan
    bump
    let atom : Atom := if c = '.' then .anyChar
      else if c = '^' then .assertion .lineStart
      else if c = '$' then .assertion .lineEnd
      else .literal c false
    return .sign { span, atom }

/-- The rest of a pattern of which some has been read, within the open groups, inner first. -/
def patternRest : (fuel : Nat) → Level → List OpenGroup → Scan Pattern
  | 0, _, _ => refuseHere .groupUnclosed
  | fuel + 1, level, groups => do
    settle
    match ← next? with
    | none =>
      match groups with
      | [] => return level.whole (← here)
      | inner :: _ => refuse .groupUnclosed inner.opening
    | some '(' =>
      match ← openGroup with
      | .alone span found =>
        setVerbose found
        patternRest fuel (level.push (.flags span found)) groups
      | .group opening captures found =>
        let verbose := (← get).verbose
        setVerbose found
        let start ← here
        patternRest fuel { first := start, start }
          ({ opening, captures, flags := found, around := level, verbose } :: groups)
    | some ')' =>
      match groups with
      | [] => refuseSign .groupUnopened
      | inner :: groups =>
        let content := level.whole (← here)
        bump
        modify fun cursor => { cursor with verbose := inner.verbose }
        let span : Span := ⟨inner.opening.start, ← here⟩
        let group : Pattern := .group span inner.captures inner.flags content
        patternRest fuel (inner.around.push group) groups
    | some '|' =>
      let stop ← here
      bump
      patternRest fuel (level.branched stop) groups
    | some '?' => patternRest fuel (← signRepetition level 0 (some 1)) groups
    | some '*' => patternRest fuel (← signRepetition level 0 none) groups
    | some '+' => patternRest fuel (← signRepetition level 1 none) groups
    | some '\x7b' => patternRest fuel (← countedRepetition level) groups
    | some c => patternRest fuel (level.push (← single c)) groups

/-- The pattern that is written so. -/
def parse (written : List Char) : Except Refusal Pattern :=
  (patternRest (written.length + 1) {} [] { rest := written }).map (·.1)

end VisualNovel.Pattern
