/-
# The unit before its script

Before the script of a row is read, its unit has what the other columns of the row say: audio,
transition, background and the effect on it. Numbers that are zero or unknown say nothing. An
animated background is set up by a configuration, which is registered with the story; of a still
background that fades over the one before it, the transition becomes the duration of the fade.
-/

import VisualNovel.Staging.Scene

namespace VisualNovel

namespace Scene

/-- The record with the number, if there is one. No record has the number zero. -/
def record? {α : Type} (table : Std.ExtTreeMap UInt64 α) (id : UInt64) : Option α :=
  if id = 0 then none else table[id]?

/-- The address of a resource by its name, if there is a name. -/
def namedUrl? (scene : Scene) (kind : ResourceKind) (name : String) : Option String :=
  if name.isEmpty then none else some (scene.url kind name)

/-- The music that starts with the row. -/
def music? (scene : Scene) : Option Music :=
  (record? scene.tables.music scene.row.music).map fun record =>
    { url := scene.url .music record.path
      volume := record.volume
      loopStart := record.loopStart
      loopEnd := record.loopEnd
      loopTransition := record.loopTransition
      loopOffset := record.loopOffset }

/-- The audio of the row, unless there is nothing to hear. -/
def audio? (scene : Scene) : Option UnitAudio :=
  let audio : UnitAudio :=
    { music := scene.music?
      sound := scene.namedUrl? .sound scene.row.sound
      voice := scene.namedUrl? .voice scene.row.voice }
  if audio.isSilent then none else some audio

/-- The transition of the row. -/
def transition? (scene : Scene) : Option TransitionRecord :=
  record? scene.tables.transitions scene.row.transition

/-- The background of the row. -/
def backgroundRecord? (scene : Scene) : Option BackgroundRecord :=
  record? scene.tables.backgrounds scene.row.background

/-- The still background of the row. -/
def still? (scene : Scene) : Option Background :=
  scene.backgroundRecord?.bind fun record =>
    if record.kind = .spine then none
    else some
      { url := scene.url .background record.file
        overlap := scene.transition?.bind (·.overlap) }

/-- The name of the animated background of the given record. -/
def live2dNameOf (record : BackgroundRecord) : String :=
  String.ofList (Resource.live2dName record.file.toList)

/-- The animated background of the row. -/
def live2d? (scene : Scene) : Option Live2d :=
  scene.backgroundRecord?.bind fun record =>
    if record.kind = .spine then
      let name := live2dNameOf record
      some { name, url := scene.url .live2dModel name, animation := record.animation }
    else none

/-- The transition that is left when the background has taken up its part. -/
def ownTransition? (scene : Scene) : Option TransitionRecord :=
  if (scene.still?.bind (·.overlap)).isSome then none else scene.transition?

/-- The configuration of an animated background, empty if the tables have none. -/
def live2dConfig (scene : Scene) (name : String) : Live2dConfig :=
  scene.tables.live2dConfigs[name]?.getD { name }

/-- The registry with the configuration of the row's animated background. -/
def registered (scene : Scene) (registry : Live2dRegistry) : Live2dRegistry :=
  match scene.live2d? with
  | some live2d => registry.insertIfNew live2d.name (scene.live2dConfig live2d.name)
  | none => registry

/-- The unit of the row before its script. -/
def opening (scene : Scene) : StoryUnit :=
  { group := scene.row.group
    branch := scene.row.branch
    kind := if scene.text?.isSome then .text else .effectOnly
    audio := scene.audio?
    background := scene.still?
    live2d := scene.live2d?
    transition := scene.ownTransition?
    effect := { background := record? scene.tables.backgroundEffects scene.row.backgroundEffect }
    popup := scene.namedUrl? .popup scene.row.popup }

end Scene

end VisualNovel
