/-
# Sets of characters in brackets

Between brackets stand characters, ranges of them, classes and further sets. Two sets are combined
by an operator between them, the first operator first. A bracket or a hyphen right after the opening
one stands for itself, and so does a hyphen before the closing one.
-/

import VisualNovel.Pattern.Escape

namespace VisualNovel.Pattern

open Scan

/-- A set whose closing bracket has not been read. -/
structure OpenSet where
  /-- The span of what opens the set. -/
  opening : Span
  negated : Bool
  /-- What stands in front of the last operator, and the operator. -/
  left? : Option (CharSet × SetOperator) := none
  /-- The place behind the last operator. -/
  start : Place
  /-- The items behind the last operator, latest first. -/
  items : List CharSet

namespace OpenSet

/-- The set with one more item. -/
def push (current : OpenSet) (item : CharSet) : OpenSet :=
  { current with items := item :: current.items }

/-- The items behind the last operator as one set. -/
def right (current : OpenSet) : CharSet :=
  match current.items.reverse with
  | [] => .empty current.start
  | [item] => item
  | first :: rest =>
    .union ⟨first.span.start, ((first :: rest).getLastD first).span.stop⟩ (first :: rest)

/-- All that has been read as one set. -/
def whole (current : OpenSet) : CharSet :=
  let right := current.right
  match current.left? with
  | none => right
  | some (left, operator) => .operation ⟨left.span.start, right.span.stop⟩ operator left right

/-- The set behind one more operator, which ends at the place. -/
def operated (current : OpenSet) (operator : SetOperator) (place : Place) : OpenSet :=
  { current with left? := some (current.whole, operator), start := place, items := [] }

/-- The set with its closing bracket, which ends at the place. -/
def closed (current : OpenSet) (place : Place) : CharSet :=
  .bracketed ⟨current.opening.start, place⟩ current.negated current.whole

end OpenSet

/-- Goes behind the next character, and refuses the pattern if nothing follows. -/
def skipWithin (refusal : Scan Unit) : Scan Unit := do
  skip
  if (← next?).isNone then refusal

/-- A character that stands for itself. -/
def verbatim (c : Char) : Scan Sign := do return { span := ← signSpan, atom := .literal c false }

/-- The hyphens right after the opening bracket, latest first. -/
def hyphens (start : Place) : (fuel : Nat) → (before : List CharSet) → Scan (List CharSet)
  | 0, before => return before
  | fuel + 1, before => do
    if (← next?) = some '-' then
      let sign ← verbatim '-'
      skipWithin (refuse .setUnclosed (.empty start))
      hyphens start fuel (.sign sign :: before)
    else return before

/-- The opening bracket of a set with all that stands for itself right after it. -/
def openSet : Scan OpenSet := do
  let start ← here
  skipWithin (refuseSince .setUnclosed start)
  let negated := (← next?) = some '^'
  if negated then skipWithin (refuseSince .setUnclosed start)
  let place ← here
  let items ← hyphens start (← remaining) []
  if items.isEmpty && (← next?) = some ']' then
    let sign ← verbatim ']'
    skipWithin (refuseSince .setUnclosed start)
    return { opening := ⟨start, ← here⟩, negated, start := place, items := [.sign sign] }
  else return { opening := ⟨start, ← here⟩, negated, start := place, items }

/-- The classes whose names are written in colons. -/
def namedClasses : List (String × AsciiClass) :=
  [("alnum", .alnum), ("alpha", .alpha), ("ascii", .ascii), ("blank", .blank), ("cntrl", .cntrl),
    ("digit", .digit), ("graph", .graph), ("lower", .lower), ("print", .print), ("punct", .punct),
    ("space", .space), ("upper", .upper), ("word", .word), ("xdigit", .xdigit)]

/-- A set that is written in colons, if it comes next. -/
def namedSet? : Scan (Option CharSet) := do
  if (← get).rest.tail.head? ≠ some ':' then return none
  let start ← here
  let forms := [("[:", false), ("[:^", true)].flatMap fun (opening, negated) =>
    namedClasses.map fun (name, chars) => (opening ++ name ++ ":]", chars, negated)
  for (form, chars, negated) in forms do
    if ← word? form then return some (.named ⟨start, ← here⟩ chars negated)
  return none

/-- A character or an escape within brackets. -/
def setSign : Scan Sign := do
  match ← next? with
  | some '\\' => escape
  | some c =>
    let sign ← verbatim c
    bump
    return sign
  | none => refuseHere .setUnclosed

/-- The sign as an item of a set, which conditions on a place are not. -/
def setItem (sign : Sign) : Scan CharSet :=
  match sign.atom with
  | .assertion _ | .anyChar => refuse .setEscape sign.span
  | _ => return .sign sign

/-- The character at an end of a range. -/
def rangeBound (sign : Sign) : Scan Char :=
  match sign.atom with
  | .literal c _ => return c
  | _ => refuse .setBound sign.span

/-- A character, a class or a range within the brackets with the given opening. -/
def setRange (opening : Span) : Scan CharSet := do
  let first ← setSign
  settle
  if (← next?).isNone then refuse .setUnclosed opening
  let second := (← get).second?
  if (← next?) ≠ some '-' || second = some ']' || second = some '-' then setItem first
  else
    skipWithin (refuse .setUnclosed opening)
    let last ← setSign
    let span : Span := ⟨first.span.start, last.span.stop⟩
    let least ← rangeBound first
    let greatest ← rangeBound last
    if least ≤ greatest then return .range span first last else refuse .setOrder span

/-- The operators between sets. -/
def operators : List (String × SetOperator) :=
  [("&&", .intersection), ("--", .difference), ("~~", .symmetricDifference)]

/-- The operator that comes next, if one does. -/
def operator? : Scan (Option SetOperator) := do
  for (form, operator) in operators do
    if ← word? form then return some operator
  return none

/-- The rest of a set of which some has been read, and which stands in other sets, inner first. -/
def setRest : (fuel : Nat) → OpenSet → List OpenSet → Scan CharSet
  | 0, current, _ => refuse .setUnclosed current.opening
  | fuel + 1, current, outer => do
    settle
    match ← next? with
    | none => refuse .setUnclosed current.opening
    | some '[' =>
      match ← namedSet? with
      | some set => setRest fuel (current.push set) outer
      | none => setRest fuel (← openSet) (current :: outer)
    | some ']' =>
      bump
      let set := current.closed (← here)
      match outer with
      | [] => return set
      | parent :: outer => setRest fuel (parent.push set) outer
    | some _ =>
      match ← operator? with
      | some operator => setRest fuel (current.operated operator (← here)) outer
      | none => setRest fuel (current.push (← setRange current.opening)) outer

/-- A set in brackets. -/
def bracketed : Scan CharSet := do
  let current ← openSet
  setRest ((← remaining) + 1) current []

end VisualNovel.Pattern
