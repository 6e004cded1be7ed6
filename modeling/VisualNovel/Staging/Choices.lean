/-
# The answers of a choice

A choice is written as one line per answer: a label in brackets that tells the branch, and the text
of the answer. Lines of another form are left out and reported.
-/

import VisualNovel.Script.Grammar
import VisualNovel.Script.Segment
import VisualNovel.Staging.Scene

namespace VisualNovel

open Script

namespace Choice

/-- The branch that a label leads to. A label that is no number of 32 bits leads to every branch. -/
def branchOf (label : List Char) : UInt32 :=
  UInt32.ofNat ((Numeral.inRange? (.unsigned 32) label).getD 0).toNat

/-- The label and the text of an answer. -/
def parts? (line : List Char) : Option (List Char × List Char) := do
  let (label, rest) ← Grammar.optionLabel line
  let text := Text.trim rest
  guard !rest.isEmpty
  return (label, text)

/-- The answer on a line, if it is one. -/
def ofLine? (scene : Scene) (line : List Char) : Option Choice :=
  (parts? line).map fun (label, text) => { branch := branchOf label, text := scene.plainText text }

end Choice

namespace Scene

/-- The lines on which the answers of the row are written: those of its text, or of its script where
it has no text. -/
def choiceLines (scene : Scene) : List (List Char) :=
  visibleLines (scene.textOr scene.row.script.toList)

/-- The answers of the row. -/
def choices (scene : Scene) : List Choice := scene.choiceLines.filterMap (Choice.ofLine? scene)

/-- The reports of the lines that are no answers. -/
def malformedChoices (scene : Scene) : List StagingError :=
  (scene.choiceLines.filter fun line => (Choice.parts? line).isNone).map fun line =>
    scene.error (.malformedOption (String.ofList line))

end Scene

end VisualNovel
