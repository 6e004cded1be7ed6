/-
# Going through a pattern

A pattern is read from its start to its end, and the place is kept. What follows may be taken back
only as a whole, by returning to an earlier cursor. In a verbose part, blanks and comments count for
nothing between the signs.
-/

import VisualNovel.Pattern.Basic
import VisualNovel.Pattern.Fault
import VisualNovel.Text.Blank

namespace VisualNovel.Pattern

/-- What is left of a pattern and what has to be known of the part before. -/
structure Cursor where
  rest : List Char
  place : Place := {}
  /-- Whether blanks and comments are passed over. -/
  verbose : Bool := false
  /-- The names of groups so far. -/
  names : List (String × Span) := []

/-- The rest after blanks and comments, and its place. -/
def skipLayout (inComment : Bool) (place : Place) : List Char → List Char × Place
  | [] => ([], place)
  | c :: rest =>
    if inComment then skipLayout (c != '\n') (place.after c) rest
    else if Text.isBlank c then skipLayout false (place.after c) rest
    else if c = '#' then skipLayout true (place.after c) rest
    else (c :: rest, place)

namespace Cursor

/-- The cursor behind the next character. -/
def advanced (cursor : Cursor) : Cursor :=
  match cursor.rest with
  | [] => cursor
  | c :: rest => { cursor with rest, place := cursor.place.after c }

/-- The cursor behind blanks and comments, where they are passed over. -/
def settled (cursor : Cursor) : Cursor :=
  if cursor.verbose then
    let (rest, place) := skipLayout false cursor.place cursor.rest
    { cursor with rest, place }
  else cursor

/-- The character after the next one, behind blanks where they are passed over. If nothing but
blanks follows, it is the first of them. -/
def second? (cursor : Cursor) : Option Char :=
  let rest := cursor.rest.tail
  if cursor.verbose then
    match rest.dropWhile Text.isBlank with
    | '#' :: comment => (comment.find? (!Text.isBlank ·)).orElse fun _ => rest.head?
    | found => found.head?.orElse fun _ => rest.head?
  else rest.head?

end Cursor

/-- A step through a pattern, which may be refused. -/
abbrev Scan (α : Type) := StateT Cursor (Except Refusal) α

namespace Scan

variable {α : Type}

/-- The place of what comes next. -/
def here : Scan Place := return (← get).place

/-- The next character. -/
def next? : Scan (Option Char) := return (← get).rest.head?

/-- How many characters are left. -/
def remaining : Scan Nat := return (← get).rest.length

/-- The span of the next character. -/
def signSpan : Scan Span := do
  let cursor ← get
  return ⟨cursor.place, cursor.advanced.place⟩

/-- Goes behind the next character. -/
def bump : Scan Unit := modify Cursor.advanced

/-- Goes behind blanks and comments. -/
def settle : Scan Unit := modify Cursor.settled

/-- Goes behind the next character, and behind blanks and comments. -/
def skip : Scan Unit := modify (·.advanced.settled)

/-- Goes back to an earlier cursor. -/
def returnTo (cursor : Cursor) : Scan Unit := StateT.set cursor

/-- Refuses the pattern for what is wrong with a span of it. -/
def refuse (fault : Fault) (span : Span) : Scan α := throw (.malformed fault span none)

/-- Refuses the pattern for what is wrong since a place. -/
def refuseSince (fault : Fault) (start : Place) : Scan α := do refuse fault ⟨start, ← here⟩

/-- Refuses the pattern for what is wrong at this place. -/
def refuseHere (fault : Fault) : Scan α := do refuse fault (.empty (← here))

/-- Refuses the pattern for its next character. -/
def refuseSign (fault : Fault) : Scan α := do refuse fault (← signSpan)

/-- Goes behind a word if it comes next, and says whether it did. -/
def word? (word : String) : Scan Bool := do
  let word := word.toList
  if word.isPrefixOf (← get).rest then
    word.forM fun _ => bump
    return true
  else return false

end Scan

end VisualNovel.Pattern
