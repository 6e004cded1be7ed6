/-
# The characters on stage

Directives bring characters on stage and animate them. A directive that calls a character by name
puts it into a slot, in place of the one who stood there. A directive that animates the character in
a slot where nobody stands yet brings back the character who stood there last in an earlier unit,
without its effects.

Nothing else changes the cast. What is said does not, in whatever language and to whatever player:
whether a character talks depends on the script alone.
-/

import VisualNovel.Script.Directive
import VisualNovel.Staging.Scene

namespace VisualNovel

open Script

namespace Cast

/-- Whether somebody stands in the slot. -/
def holds (cast : List StagedCharacter) (position : UInt8) : Bool :=
  cast.any (·.position == position)

/-- Changes the first character in the slot. -/
def modifyAt (position : UInt8) (change : StagedCharacter → StagedCharacter) :
    List StagedCharacter → List StagedCharacter
  | [] => []
  | character :: rest =>
    if character.position = position then change character :: rest
    else character :: modifyAt position change rest

/-- The character who stood in the slot last among the first units. -/
def lastOccupant? (earlier : List StoryUnit) (count : Nat) (position : UInt8) :
    Option StagedCharacter :=
  (earlier.take count).reverse.findSome? (·.characterAt? position)

/-- The cast with somebody in the slot, if somebody has ever stood there. -/
def occupied? (scene : Scene) (cast : List StagedCharacter) (position : UInt8) :
    Option (List StagedCharacter) :=
  if holds cast position then some cast
  else (lastOccupant? scene.earlier scene.index position).map fun last => cast ++ [last.atRest]

/-- The kind of effect with the given keyword. -/
def effectKind (keyword : List Char) : EffectKind :=
  let keyword := Text.lowercaseAscii keyword
  if keyword = "em".toList then .emotion
  else if keyword = "fx".toList then .special
  else .action

/-- The cast after the character in the slot is animated. -/
def animate (scene : Scene) (cast : List StagedCharacter) (position : UInt8)
    (effect : CharacterEffect) : Except StagingError (List StagedCharacter) :=
  match occupied? scene cast position with
  | none => .error (scene.error (.emptySlot position))
  | some cast =>
    .ok (modifyAt position
      (fun character => { character with effects := character.effects ++ [effect] }) cast)

/-- The character that a script calls by name, with its number. -/
def called (scene : Scene) (name : String) : Except StagingError (UInt64 × CharacterRecord) :=
  match scene.tables.characterId? name with
  | none => .error (scene.error (.unknownName name))
  | some id =>
    match scene.tables.character? id with
    | none => .error (scene.error (.unknownCharacter id))
    | some record => .ok (id, record)

/-- The cast with the given character in the slot. One who stands there already gives way and leaves
the effects behind. -/
def place (cast : List StagedCharacter) (character : StagedCharacter) : List StagedCharacter :=
  if holds cast character.position then
    modifyAt character.position
      (fun before => { character with effects := before.effects }) cast
  else cast ++ [character]

/-- The cast with nobody highlighted outside the slot. -/
def dimOthers (position : UInt8) (cast : List StagedCharacter) : List StagedCharacter :=
  cast.map fun character =>
    if character.position = position then character else { character with highlighted := false }

/-- The cast after a character is called into the slot. One that talks is the only one lit. -/
def call (scene : Scene) (cast : List StagedCharacter) (position : UInt8) (name face : String)
    (talks : Bool) : Except StagingError (List StagedCharacter) := do
  let (id, record) ← called scene name
  let after := place cast {
    position, id, face
    highlighted := talks
    signal := record.isSignal
    model := scene.url .characterModel record.prefab }
  return if talks then dimOthers position after else after

/-- The cast after a directive. -/
def after (scene : Scene) (cast : List StagedCharacter) :
    Directive → Except StagingError (List StagedCharacter)
  | .characterEffect slot kind name async =>
    animate scene cast slot.position
      { kind := effectKind (Parameter.text (some kind))
        name := String.ofList (Parameter.text (some name))
        async := async.visible?.isSome }
  | .character slot name face talk =>
    call scene cast slot.position (String.ofList (Parameter.text (some name)))
      (String.ofList (Parameter.text (some face))) talk.visible?.isSome
  | _ => .ok cast

/-- The cast in which everybody is lit, unless somebody is lit already. -/
def lit (cast : List StagedCharacter) : List StagedCharacter :=
  if cast.any (·.highlighted) then cast
  else cast.map fun character => { character with highlighted := true }

end Cast

end VisualNovel
