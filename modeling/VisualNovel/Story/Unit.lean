/-
# Units

A unit is one step of playback: everything that is shown, heard and asked at that step. Units are
plain data. Resources stand in them by address, and the characters on stage by value, so that a unit
can be played without the reference tables.
-/

import VisualNovel.Dialogue.Run
import VisualNovel.Reference.Scenery
import Std.Data.ExtTreeMap

namespace VisualNovel

/-- What a unit mainly is. -/
inductive UnitKind
  | title
  | place
  /-- Someone talks, or a text is narrated. -/
  | text
  /-- The player is asked to choose. -/
  | choice
  | floatingText
  /-- Nothing is said. -/
  | effectOnly
  /-- The story is continued elsewhere. -/
  | continued
  deriving DecidableEq, Repr, Inhabited

/-- The ways in which a character is animated. -/
inductive EffectKind
  | emotion
  | action
  | special
  deriving DecidableEq, Repr

/-- An animation of one character. -/
structure CharacterEffect where
  kind : EffectKind
  name : String
  /-- Whether playback goes on without waiting for the end of the effect. -/
  async : Bool
  deriving DecidableEq, Repr

/-- A character standing in a slot of the stage. -/
structure StagedCharacter where
  /-- The number of the slot. -/
  position : UInt8
  /-- The number of the character. -/
  id : UInt64
  face : String
  highlighted : Bool
  /-- Whether the character is shown as a hologram. -/
  signal : Bool
  /-- The address of the character's model. -/
  model : String
  effects : List CharacterEffect := []
  deriving DecidableEq, Repr

/-- The character without its effects. -/
def StagedCharacter.atRest (character : StagedCharacter) : StagedCharacter :=
  { character with effects := [] }

/-- Who is named as the one that talks. -/
structure Speaker where
  name : String
  nickname : Option String
  deriving DecidableEq, Repr

/-- One of the answers that a player may choose. -/
structure Choice where
  /-- The branch that the answer leads to. -/
  branch : UInt32
  text : String
  deriving DecidableEq, Repr

/-- How floating text appears. -/
inductive FloatingMode
  | serial
  | instant
  | smooth
  deriving DecidableEq, Repr

/-- Where, how and for how long floating text appears. -/
structure FloatingPlacement where
  x : Int32
  y : Int32
  mode : FloatingMode
  duration : UInt32
  deriving DecidableEq, Repr

/-- What happens to floating text. -/
structure FloatingText where
  placement : Option FloatingPlacement := none
  /-- Whether the text stands on the middle line. -/
  middle : Bool := false
  /-- Whether the floating text goes away. -/
  clear : Bool := false
  deriving DecidableEq, Repr

/-- A title card. -/
structure TitleCard where
  title : String := ""
  subtitle : Option String := none
  nextEpisode : Bool := false
  deriving DecidableEq, Repr

/-- Everything that a unit has to read. -/
structure UnitText where
  runs : List Run := []
  speaker : Option Speaker := none
  choices : List Choice := []
  floating : Option FloatingText := none
  title : Option TitleCard := none
  /-- The name of the place. -/
  place : Option String := none
  deriving DecidableEq, Repr

/-- Music with the times of its loop. -/
structure Music where
  url : String
  volume : Float32
  loopStart : Float32
  loopEnd : Float32
  loopTransition : Float32
  loopOffset : Float32
  deriving DecidableEq

/-- Everything that a unit has to hear. -/
structure UnitAudio where
  music : Option Music := none
  sound : Option String := none
  voice : Option String := none
  deriving DecidableEq

/-- Whether there is nothing to hear. -/
def UnitAudio.isSilent (audio : UnitAudio) : Bool :=
  audio.music.isNone && audio.sound.isNone && audio.voice.isNone

/-- A still background. -/
structure Background where
  url : String
  /-- How long it fades over the background before it. -/
  overlap : Option UInt32
  deriving DecidableEq, Repr

/-- An animated background. -/
structure Live2d where
  name : String
  url : String
  animation : String
  deriving DecidableEq, Repr

/-- An effect on the whole screen. -/
inductive ScreenEffect
  | wait (duration : UInt32)
  | shakeBackground
  | zoomInstant (x y : Int32) (size : UInt32)
  | zoomMove (x y : Int32) (size duration : UInt32)
  deriving DecidableEq, Repr

/-- The effects of a unit, those of its characters aside. -/
structure UnitEffect where
  background : Option BackgroundEffectRecord := none
  /-- The effects on the screen, in their order. -/
  screen : List ScreenEffect := []
  deriving DecidableEq

/-- What is hidden. -/
inductive Hidden
  | all
  | menu
  deriving DecidableEq, Repr

/-- A video and its sound track. -/
structure Video where
  picture : String
  sound : String
  deriving DecidableEq, Repr

/-- One step of playback. -/
structure StoryUnit where
  /-- The group that the row of the unit belongs to. -/
  group : UInt64 := 0
  /-- The branch of a choice that the unit is played on; zero for every branch. -/
  branch : UInt32 := 0
  kind : UnitKind := .text
  /-- The characters on stage, in the order in which they came. -/
  cast : List StagedCharacter := []
  text : UnitText := {}
  audio : Option UnitAudio := none
  background : Option Background := none
  live2d : Option Live2d := none
  transition : Option TransitionRecord := none
  effect : UnitEffect := {}
  hidden : Option Hidden := none
  /-- Whether the menu is shown again. -/
  showsMenu : Bool := false
  video : Option Video := none
  popup : Option String := none
  deriving DecidableEq

namespace StoryUnit

/-- The character in the slot with the given number. -/
def characterAt? (unit : StoryUnit) (position : UInt8) : Option StagedCharacter :=
  unit.cast.find? (·.position == position)

/-- The place of that character in the order of the cast. -/
def characterIndex? (unit : StoryUnit) (position : UInt8) : Option Nat :=
  unit.cast.findIdx? (·.position == position)

end StoryUnit

/-- The configurations of the animated backgrounds that a story uses, by name. -/
abbrev Live2dRegistry := Std.ExtTreeMap String Live2dConfig

end VisualNovel
