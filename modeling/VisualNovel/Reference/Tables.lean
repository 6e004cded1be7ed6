/-
# Reference tables

What the rows of a story refer to by name or number. Every table keeps the record that was inserted
last under its key. Names of characters have two sources: a name that is given a number explicitly
keeps the number it was given last, and the Korean name of an inserted character is added only where
the name has no number yet.
-/

import VisualNovel.Reference.Character
import VisualNovel.Reference.Scenery
import VisualNovel.Text.Blank
import Std.Data.ExtTreeMap

namespace VisualNovel

open Std (ExtTreeMap)

/-- The tables that a story is staged with. -/
structure ReferenceTables where
  /-- The numbers of characters by the names that scripts use. -/
  names : ExtTreeMap String UInt64 := ∅
  characters : ExtTreeMap UInt64 CharacterRecord := ∅
  backgrounds : ExtTreeMap UInt64 BackgroundRecord := ∅
  music : ExtTreeMap UInt64 MusicRecord := ∅
  transitions : ExtTreeMap UInt64 TransitionRecord := ∅
  backgroundEffects : ExtTreeMap UInt64 BackgroundEffectRecord := ∅
  live2dConfigs : ExtTreeMap String Live2dConfig := ∅

namespace ReferenceTables

/-- The tables with nothing in them. -/
def empty : ReferenceTables := {}

/-- Gives a name a number, whatever number it had. -/
def insertName (tables : ReferenceTables) (name : String) (id : UInt64) : ReferenceTables :=
  { tables with names := tables.names.insert name id }

/-- Inserts a character, and its Korean name where that is not empty and has no number yet. -/
def insertCharacter (tables : ReferenceTables) (record : CharacterRecord) : ReferenceTables :=
  { tables with
    names :=
      if record.nameKr.isEmpty then tables.names
      else tables.names.insertIfNew record.nameKr record.id
    characters := tables.characters.insert record.id record }

/-- Inserts a background. -/
def insertBackground (tables : ReferenceTables) (record : BackgroundRecord) : ReferenceTables :=
  { tables with backgrounds := tables.backgrounds.insert record.id record }

/-- Inserts a piece of music. -/
def insertMusic (tables : ReferenceTables) (record : MusicRecord) : ReferenceTables :=
  { tables with music := tables.music.insert record.id record }

/-- Inserts a transition. -/
def insertTransition (tables : ReferenceTables) (record : TransitionRecord) : ReferenceTables :=
  { tables with transitions := tables.transitions.insert record.id record }

/-- Inserts an effect on the background. -/
def insertBackgroundEffect (tables : ReferenceTables) (record : BackgroundEffectRecord) :
    ReferenceTables :=
  { tables with backgroundEffects := tables.backgroundEffects.insert record.id record }

/-- Inserts the configuration of an animated background under its own name. -/
def insertLive2dConfig (tables : ReferenceTables) (config : Live2dConfig) : ReferenceTables :=
  { tables with live2dConfigs := tables.live2dConfigs.insert config.name config }

/-- The number of the character that the trimmed name calls. -/
def characterId? (tables : ReferenceTables) (name : String) : Option UInt64 :=
  tables.names[String.ofList (Text.trim name.toList)]?

/-- The character with the given number. -/
def character? (tables : ReferenceTables) (id : UInt64) : Option CharacterRecord :=
  tables.characters[id]?

/-- The character that the trimmed name calls. -/
def characterByName? (tables : ReferenceTables) (name : String) : Option CharacterRecord :=
  (tables.characterId? name).bind tables.character?

/-- The numbers of entries of the seven tables: names, characters, backgrounds, music, transitions,
background effects and animated backgrounds. -/
def counts (tables : ReferenceTables) : List Nat :=
  [tables.names.size, tables.characters.size, tables.backgrounds.size, tables.music.size,
    tables.transitions.size, tables.backgroundEffects.size, tables.live2dConfigs.size]

end ReferenceTables

end VisualNovel
