/-
# Applying directives

A directive changes each aspect of a unit on its own: its cast, what there is to read, its kind, its
effects on the screen, what is hidden and shown, and its video. Only the change of the cast can
fail, and then the unit stays as it is.
-/

import VisualNovel.Staging.Cast
import VisualNovel.Staging.Speech

namespace VisualNovel

open Script

/-- The effects on the screen that a directive adds. -/
def Script.Directive.screenEffects : Directive → List ScreenEffect
  | .wait duration => [.wait (Parameter.toUInt32 (some duration))]
  | .zoomInstant x y size =>
    [.zoomInstant (Parameter.toInt32 (some x)) (Parameter.toInt32 (some y))
      (Parameter.toUInt32 (some size))]
  | .zoomMove x y size duration =>
    [.zoomMove (Parameter.toInt32 (some x)) (Parameter.toInt32 (some y))
      (Parameter.toUInt32 (some size)) (Parameter.toUInt32 (some duration))]
  | .shakeBackground => [.shakeBackground]
  | _ => []

/-- What a directive hides. -/
def Script.Directive.hides? : Directive → Option Hidden
  | .hideAll => some .all
  | .hideMenu => some .menu
  | _ => none

/-- The video that a directive plays. -/
def Scene.video? (scene : Scene) : Directive → Option Video
  | .video picture sound =>
    some
      { picture := scene.url .video (String.ofList (Parameter.text (some picture)))
        sound := scene.url .video (String.ofList (Parameter.text (some sound))) }
  | _ => none

/-- The unit after a directive that leaves the given cast. -/
def Scene.applied (scene : Scene) (unit : StoryUnit) (cast : List StagedCharacter)
    (directive : Directive) : StoryUnit :=
  { unit with
    kind := Speech.kindAfter scene unit.kind directive
    cast
    text := Speech.after scene unit.kind unit.text directive
    effect := { unit.effect with screen := unit.effect.screen ++ directive.screenEffects }
    hidden := directive.hides?.or unit.hidden
    showsMenu := unit.showsMenu || directive == .showMenu
    video := (scene.video? directive).or unit.video }

/-- The unit after a directive, with the reports of lines that were left out. -/
def Scene.apply (scene : Scene) (unit : StoryUnit) (directive : Directive) :
    Except StagingError (StoryUnit × List StagingError) := do
  let cast ← Cast.after scene unit.cast directive
  return (scene.applied unit cast directive, Speech.reports scene unit.kind directive)

/-- The unit after all of the directives, and the reports up to the end or to the first failure. -/
def Scene.applyAll (scene : Scene) (unit : StoryUnit) :
    List Directive → Except StagingError StoryUnit × List StagingError
  | [] => (.ok unit, [])
  | directive :: rest =>
    match scene.apply unit directive with
    | .error error => (.error error, [])
    | .ok (unit, reports) =>
      let (result, later) := scene.applyAll unit rest
      (result, reports ++ later)

end VisualNovel
