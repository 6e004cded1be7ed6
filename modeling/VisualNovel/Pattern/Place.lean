/-
# Places in a pattern

A place is a line and a column, both counted in characters from one. Spans of a pattern are shown by
carets below its lines. A pattern of several lines is shown with their numbers, and of a span over
several lines only its ends are told.
-/

namespace VisualNovel.Pattern

/-- A place in a pattern. -/
structure Place where
  line : Nat := 1
  column : Nat := 1
  deriving DecidableEq, Repr

/-- The place behind a character. -/
def Place.after (place : Place) (c : Char) : Place :=
  if c = '\n' then ⟨place.line + 1, 1⟩ else ⟨place.line, place.column + 1⟩

/-- What lies between a place and a later one. -/
structure Span where
  start : Place
  stop : Place
  deriving DecidableEq, Repr

namespace Span

/-- The span of nothing at a place. -/
def empty (place : Place) : Span := ⟨place, place⟩

/-- Whether the span stays within a line. -/
def isOneLine (span : Span) : Bool := span.start.line = span.stop.line

/-- Carets below the spans, which are given in order, with so many columns already behind. There is
always one caret at least. -/
def carets : (behind : Nat) → List Span → List Char
  | _, [] => []
  | behind, span :: rest =>
    let blanks := span.start.column - 1 - behind
    let count := max 1 (span.stop.column - span.start.column)
    List.replicate blanks ' ' ++ List.replicate count '^' ++ carets (behind + blanks + count) rest

/-- Where a span over several lines starts and ends. -/
def note (span : Span) : String :=
  "on line " ++ toString span.start.line ++ " (column " ++ toString span.start.column
    ++ ") through line " ++ toString span.stop.line ++ " (column "
    ++ toString (span.stop.column - 1) ++ ")\n"

end Span

/-- The lines of a pattern. A line break at the end has no further line behind it. -/
def lines (pattern : List Char) : List (List Char) :=
  let parts := pattern.splitOn '\n'
  let withoutReturn (line : List Char) : List Char :=
    if line.getLast? = some '\r' then line.dropLast else line
  match parts.getLast? with
  | some [] | none => parts.dropLast.map withoutReturn
  | some last => parts.dropLast.map withoutReturn ++ [last]

/-- The number of a line in front of it, aligned for so many digits. -/
def numbered (width number : Nat) : List Char :=
  let digits := Nat.toDigits 10 number
  List.replicate (width - digits.length) ' ' ++ digits ++ [':', ' ']

/-- The lines of a pattern, each with the carets for the spans within it below. Without digits for
the numbers of the lines, four blanks stand in front. -/
def marked (width : Nat) (spans : List Span) (pattern : List Char) : String :=
  let indent := if width = 0 then 4 else width + 2
  String.ofList <| (lines pattern).zipIdx.flatMap fun (line, index) =>
    let front := if width = 0 then List.replicate indent ' ' else numbered width (index + 1)
    let inside := spans.filter fun span => span.isOneLine && span.start.line = index + 1
    let below := if inside.isEmpty then []
      else List.replicate indent ' ' ++ Span.carets 0 inside ++ ['\n']
    front ++ line ++ '\n' :: below

/-- The pattern with its spans shown, which are given in order. -/
def shown (pattern : List Char) (spans : List Span) : String :=
  if pattern.contains '\n' then
    let rule := String.ofList (List.replicate 79 '~') ++ "\n"
    let width := (Nat.toDigits 10 ((pattern.filter (· == '\n')).length + 1)).length
    let notes := (spans.filter (!·.isOneLine)).map Span.note
    rule ++ marked width spans pattern ++ rule ++ String.join notes
  else marked 0 spans pattern

end VisualNovel.Pattern
