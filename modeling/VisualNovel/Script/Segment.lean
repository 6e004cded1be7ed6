/-
# Segments of a script

A script is read line by line. A segment is a line that is not blank, without its blank ends, and
it remembers which line it was. Its fields are the parts between its semicolons.
-/

import VisualNovel.Text.Blank

namespace VisualNovel.Script

/-- A line of a script that has something on it. -/
structure Segment where
  /-- The number of the line, counted from zero. -/
  line : Nat
  /-- The line without its blank ends. -/
  text : List Char
  deriving DecidableEq, Repr

/-- The parts of the segment between its semicolons, trimmed. -/
def Segment.fields (segment : Segment) : List (List Char) :=
  (segment.text.splitOn ';').map Text.trim

/-- The first field of the segment. -/
def Segment.head (segment : Segment) : List Char :=
  segment.fields.headD []

/-- The lines of a text that are not blank, trimmed. -/
def visibleLines (text : List Char) : List (List Char) :=
  ((text.splitOn '\n').map Text.trim).filter (!·.isEmpty)

/-- The segments of a script in order. -/
def segments (script : List Char) : List Segment :=
  ((script.splitOn '\n').zipIdx.map fun (raw, line) => ⟨line, Text.trim raw⟩).filter
    (!·.text.isEmpty)

example : (segments "a\n \n  #title; b ".toList).map (fun s => (s.line, s.fields)) =
    [(0, ["a".toList]), (2, ["#title".toList, "b".toList])] := by decide

end VisualNovel.Script
