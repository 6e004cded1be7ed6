/-
# From marked-up text to runs

The text is gone through piece by piece. Plain characters and unknown groups collect in a buffer; a
tag closes the run collected so far and then changes the style, or sets the pause of the next run.
An empty buffer makes no run, and a pause that was set waits for the next run that is made. Colours
nest: ending one brings back the one outside it.

Without styling the same runs are made and their effects left out.
-/

import VisualNovel.Dialogue.Markup
import VisualNovel.Dialogue.Run

namespace VisualNovel.Dialogue

/-- The style in force, with the colours in force from the innermost out. -/
structure Style where
  ruby : Option (List Char) := none
  colors : List (List Char) := []
  bold : Bool := false
  italic : Bool := false
  deriving DecidableEq, Repr

/-- The effects of a run in the style: ruby, the innermost colour, bold and italic. -/
def Style.effects (style : Style) : List RunEffect :=
  (style.ruby.map fun reading => RunEffect.ruby (String.ofList reading)).toList
    ++ (style.colors.head?.map fun digits => RunEffect.color (String.ofList ('#' :: digits))).toList
    ++ (if style.bold then [.bold] else [])
    ++ (if style.italic then [.italic] else [])

/-- The style after a tag. -/
def Style.after (style : Style) : Tag → Style
  | .pause _ => style
  | .ruby reading => { style with ruby := some reading }
  | .endRuby => { style with ruby := none }
  | .color digits => { style with colors := digits :: style.colors }
  | .endColor => { style with colors := style.colors.tail }
  | .bold => { style with bold := true }
  | .endBold => { style with bold := false }
  | .italic => { style with italic := true }
  | .endItalic => { style with italic := false }

/-- How far the text has been gone through. -/
structure Progress where
  /-- The runs made so far, latest first. -/
  runs : List Run := []
  /-- The characters of the next run, latest first. -/
  buffer : List Char := []
  /-- The pause before the next run. -/
  pause : Option UInt32 := none
  style : Style := {}

namespace Progress

/-- Makes a run of the buffer unless that is empty. -/
def close (styled : Bool) (progress : Progress) : Progress :=
  if progress.buffer.isEmpty then progress
  else
    let run : Run :=
      { content := String.ofList progress.buffer.reverse
        pause := progress.pause
        effects := if styled then progress.style.effects else [] }
    { progress with runs := run :: progress.runs, buffer := [], pause := none }

/-- The length of a pause, if it can be held in 32 bits. -/
def pauseOf (digits : List Char) : Option UInt32 :=
  (Numeral.inRange? (.unsigned 32) digits).map fun n => UInt32.ofNat n.toNat

/-- Goes on over a tag. -/
def tag (styled : Bool) (progress : Progress) (found : Tag) : Progress :=
  let closed := progress.close styled
  match found with
  | .pause digits => { closed with pause := pauseOf digits }
  | found => { closed with style := closed.style.after found }

/-- Goes on over a piece of the text. -/
def step (styled : Bool) (progress : Progress) : Piece → Progress
  | .char c => { progress with buffer := c :: progress.buffer }
  | .group body =>
    match Tag.ofBody? body with
    | some found => progress.tag styled found
    | none => { progress with buffer := ']' :: (body.reverse ++ '[' :: progress.buffer) }

end Progress

/-- The text after the two replacements. -/
def source (raw : List Char) (player : String) : List Char :=
  breakLines (insertName player.toList raw)

/-- The runs of a text, with their effects if `styled`. -/
def runs (raw : List Char) (styled : Bool) (player : String) : List Run :=
  (((pieces (source raw player)).foldl (Progress.step styled) {}).close styled).runs.reverse

/-- The text that the player sees, without any known tag. -/
def plainText (raw : List Char) (player : String) : String :=
  String.join ((runs raw false player).map (·.content))

end VisualNovel.Dialogue
