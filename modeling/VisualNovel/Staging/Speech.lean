/-
# What a directive lets the player read

A row with text in the player's language shows that text; the words in its script only stand in for
a missing text. Which directive shows the text decides how: as dialogue with a speaker, as
narration, as floating text, as a title card, as the name of a place, or as the answers of a choice.

A directive that makes a unit something of its own decides the kind of the unit, whatever came
before it. Dialogue is the weaker claim: it only makes a text of a unit in which nothing was said.
-/

import VisualNovel.Script.Directive
import VisualNovel.Staging.Choices
import VisualNovel.Story.Codec.Text

namespace VisualNovel

open Script

namespace Speech

/-- The parts of a text between its semicolons as the player sees them, empty ones left out. -/
def titleParts (scene : Scene) (text : List Char) : List String :=
  ((text.splitOn ';').map fun part => scene.plainText (Text.trim part)).filter (!·.isEmpty)

/-- The title card with the given parts. Of several parts the first is the subtitle. -/
def titleCard (nextEpisode : Bool) : List String → TitleCard
  | [] => { nextEpisode }
  | [title] => { title, nextEpisode }
  | subtitle :: rest => { title := " ".intercalate rest, subtitle := some subtitle, nextEpisode }

/-- The title card of the row. -/
def rowTitle (scene : Scene) (nextEpisode : Bool) : TitleCard :=
  titleCard nextEpisode (titleParts scene (scene.textOr []))

/-- A character as a speaker. -/
def speakerOf (scene : Scene) (record : CharacterRecord) : Speaker :=
  { name := record.name scene.settings.language
    nickname := record.nickname scene.settings.language }

/-- Whoever the script calls by the name, as a speaker. A name that the tables do not know is shown
as it is. -/
def speakerNamed (scene : Scene) (name : List Char) : Speaker :=
  let name := String.ofList name
  match scene.tables.characterByName? name with
  | some record => speakerOf scene record
  | none => { name, nickname := none }

/-- The speaker of a narration. One parameter alone is the text and has no speaker. -/
def narrator? (scene : Scene) (first second : Parameter) : Option Speaker :=
  second.visible?.bind fun _ => first.visible?.map (speakerNamed scene)

/-- The runs of a narration. -/
def narration (scene : Scene) (first second : Parameter) : List Run :=
  scene.runs (scene.textOr ((second.visible?.or first.visible?).getD [])) false

/-- The mode with the given keyword. -/
def floatingMode (keyword : List Char) : FloatingMode :=
  (FloatingMode.named? (Text.lowercaseAscii keyword)).getD .serial

/-- The text of a unit in which floating text is placed. -/
def placeFloating (text : UnitText) (placement : FloatingPlacement) (middle : Bool) : UnitText :=
  { text with
    floating := some {
      text.floating.getD {} with
      placement := some placement
      middle } }

/-- What there is to read after a directive in a unit of the given kind. -/
def after (scene : Scene) (kind : UnitKind) (text : UnitText) : Directive → UnitText
  | .title => { text with title := some (rowTitle scene false) }
  | .nextEpisode => { text with title := some (rowTitle scene true) }
  | .place => { text with place := some (scene.plainText (scene.textOr [])) }
  | .narration first second =>
    { text with
      runs := narration scene (some first) second
      speaker := narrator? scene (some first) second }
  | .floatingText x y mode duration trailing =>
    let placed := placeFloating text
      { x := Parameter.toInt32 (some x)
        y := Parameter.toInt32 (some y)
        mode := floatingMode (Parameter.text (some mode))
        duration := Parameter.toUInt32 (some duration) } false
    match trailing.visible? with
    | none => placed
    | some trailing => { placed with runs := scene.runs (scene.textOr trailing) false }
  | .middleText _ y mode duration trailing =>
    let placed := placeFloating text
      { x := 0
        y := Parameter.toInt32 (some y)
        mode := floatingMode (Parameter.text (some mode))
        duration := Parameter.toUInt32 (some duration) } true
    { placed with runs := scene.runs (scene.textOr trailing.text) true }
  | .clearText =>
    { text with floating := some { text.floating.getD {} with clear := true } }
  | .fontSize size =>
    let size := Parameter.toUInt32 (some size)
    { text with
      runs := text.runs.map fun run => { run with effects := run.effects ++ [.fontSize size] } }
  | .character _ name _ talk =>
    match talk.visible? with
    | none => text
    | some talk =>
      { text with
        runs := scene.runs (scene.textOr talk) false
        speaker := some (speakerNamed scene (Parameter.text (some name))) }
  | .option .. =>
    if kind = .choice then text else { text with choices := text.choices ++ scene.choices }
  | _ => text

/-- The kind of a unit in which something is said. -/
def claimed : UnitKind → UnitKind
  | .effectOnly => .text
  | kind => kind

/-- The kind of a unit after a directive. -/
def kindAfter (scene : Scene) (kind : UnitKind) : Directive → UnitKind
  | .title | .nextEpisode => .title
  | .place => .place
  | .continued => .continued
  | .floatingText .. | .middleText .. => .floatingText
  | .option .. => .choice
  | .narration first second =>
    if (narration scene (some first) second).isEmpty then kind else claimed kind
  | .character _ _ _ talk => if talk.visible?.isSome then claimed kind else kind
  | _ => kind

/-- The lines that a directive reports as malformed in a unit of the given kind. The answers are
looked at once, when the unit becomes a choice. -/
def reports (scene : Scene) (kind : UnitKind) : Directive → List StagingError
  | .option .. => if kind = .choice then [] else scene.malformedChoices
  | _ => []

end Speech

end VisualNovel
