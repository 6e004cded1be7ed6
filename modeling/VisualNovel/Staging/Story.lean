/-
# Staging a story

The rows of a story are staged one after the other, each into one unit. A row sees the units before
it and none after it, so what is staged is never revisited. A row that fails makes no unit; the
configuration of its background and the reports before the failure stay.

A story is staged as a whole if every row is, and fails with the first row that does.
-/

import VisualNovel.Script.Consumption
import VisualNovel.Staging.Directive
import VisualNovel.Staging.Opening
import VisualNovel.Story.Codec.Unit

namespace VisualNovel

/-- A staged story. -/
structure Story where
  units : List StoryUnit
  /-- The configurations of all animated backgrounds of the story. -/
  registry : Live2dRegistry
  /-- The reports of lines that were left out. -/
  diagnostics : List StagingError := []

namespace Story

/-- The story in JSON. The diagnostics are not part of it. -/
def toJson (story : Story) : Json :=
  .obj [("units", .ofList StoryUnit.toJson story.units),
    ("l2dConfigs", Live2dRegistry.toJson story.registry)]

/-- The story from JSON. Its units stand in a list in an object. -/
def ofJson? (json : Json) : Option Story := do
  let fields ← json.fullRecord? ["units", "l2dConfigs"]
  let units ← fields.required? "units" (Json.list? (StoryUnit.ofJsonWithin? 2))
  let registry ← fields.required? "l2dConfigs" Live2dRegistry.ofJson?
  return { units, registry }

end Story

/-- The unit of a row, and the reports up to the end of its script or to the failure. -/
def Scene.stage (scene : Scene) : Except StagingError StoryUnit × List StagingError :=
  let (result, reports) :=
    scene.applyAll scene.opening (Script.directives scene.row.script.toList)
  (result.map fun unit => { unit with cast := Cast.lit unit.cast }, reports)

/-- How far a story is staged. -/
structure Staging where
  units : List StoryUnit := []
  registry : Live2dRegistry := ∅
  diagnostics : List StagingError := []

namespace Staging

/-- The scene of the next row. -/
def scene (staging : Staging) (context : StagingContext) (row : Row) : Scene :=
  { context with row, index := staging.units.length, earlier := staging.units }

/-- Stages the next row. -/
def push (staging : Staging) (context : StagingContext) (row : Row) :
    Except StagingError StoryUnit × Staging :=
  let scene := staging.scene context row
  let (result, reports) := scene.stage
  (result,
    { units := staging.units ++ result.toOption.toList
      registry := scene.registered staging.registry
      diagnostics := staging.diagnostics ++ reports })

/-- Stages rows up to the first one that fails. -/
def run (context : StagingContext) (staging : Staging) : List Row → Except StagingError Staging
  | [] => .ok staging
  | row :: rows =>
    match staging.push context row with
    | (.error error, _) => .error error
    | (.ok _, staging) => staging.run context rows

/-- What has been staged so far, as a story. -/
def story (staging : Staging) : Story :=
  { units := staging.units, registry := staging.registry, diagnostics := staging.diagnostics }

end Staging

namespace Story

/-- The story that the rows make. -/
def ofRows (context : StagingContext) (rows : List Row) : Except StagingError Story :=
  (Staging.run context {} rows).map Staging.story

/-- The units that the rows make. -/
def unitsOfRows (context : StagingContext) (rows : List Row) :
    Except StagingError (List StoryUnit) :=
  (ofRows context rows).map (·.units)

end Story

end VisualNovel
