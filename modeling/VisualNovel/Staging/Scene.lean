/-
# The scene of a row

A row is staged in a scene: the reference tables and the settings, the row with its number, and the
units of the rows before it. What a directive does depends on its scene and on the unit that is
being made, and on nothing else.
-/

import VisualNovel.Dialogue.Runs
import VisualNovel.Reference.Tables
import VisualNovel.Resource
import VisualNovel.Staging.Error
import VisualNovel.Staging.Settings
import VisualNovel.Story.Row
import VisualNovel.Story.Unit

namespace VisualNovel

/-- Everything that the rows of a story are staged with. -/
structure StagingContext where
  tables : ReferenceTables := .empty
  settings : PlayerSettings := {}

/-- Everything that one row is staged with. -/
structure Scene extends StagingContext where
  row : Row
  /-- The number of the row, counted from zero. -/
  index : Nat
  /-- The units of the rows before. -/
  earlier : List StoryUnit

namespace StagingContext

/-- The address of a resource. -/
def url (context : StagingContext) (kind : ResourceKind) (name : String) : String :=
  Resource.url context.settings.root kind name

end StagingContext

namespace Scene

/-- The text of the row in the player's language, unless it is missing or blank. -/
def text? (scene : Scene) : Option String := scene.row.text scene.settings.language

/-- The runs of a text. -/
def runs (scene : Scene) (raw : List Char) (styled : Bool) : List Run :=
  Dialogue.runs raw styled scene.settings.player

/-- The text that the player sees. -/
def plainText (scene : Scene) (raw : List Char) : String :=
  Dialogue.plainText raw scene.settings.player

/-- The text of the row, or another one where the row has none. -/
def textOr (scene : Scene) (other : List Char) : List Char :=
  (scene.text?.map String.toList).getD other

/-- A fault of the row. -/
def error (scene : Scene) (fault : StagingFault) : StagingError :=
  { row := scene.index, script := scene.row.script, fault }

end Scene

end VisualNovel
