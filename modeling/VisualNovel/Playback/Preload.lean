/-
# Loading ahead

The resources of the next units are loaded before they are needed. How far ahead is limited by a
number of units, and by the next choice, behind which the branch is not known. Every address is
listed once, where it is needed first.
-/

import VisualNovel.Story.Unit

namespace VisualNovel

/-- The addresses that the next units need. -/
structure Preload where
  images : List String
  models : List String
  audio : List String
  deriving DecidableEq, Repr

namespace StoryUnit

/-- The images of the unit. -/
def imageUrls (unit : StoryUnit) : List String :=
  (unit.background.map (·.url)).toList ++ unit.popup.toList

/-- The animated models of the unit. -/
def modelUrls (unit : StoryUnit) : List String :=
  (unit.live2d.map (·.url)).toList ++ unit.cast.map (·.model)

/-- What is to be heard in the unit, the sound track of a video included. -/
def audioUrls (unit : StoryUnit) : List String :=
  let audio := unit.audio.getD {}
  (audio.music.map (·.url)).toList ++ audio.sound.toList ++ audio.voice.toList
    ++ (unit.video.map (·.sound)).toList

end StoryUnit

namespace Preload

/-- The units up to the first choice. -/
def throughChoice : List StoryUnit → List StoryUnit
  | [] => []
  | unit :: rest => if unit.kind = .choice then [unit] else unit :: throughChoice rest

/-- The units that are looked at. -/
def window (units : List StoryUnit) (start ahead : Nat) : List StoryUnit :=
  throughChoice ((units.drop start).take ahead)

/-- The addresses that the units from `start` on need, at most `ahead` units on. -/
def scan (units : List StoryUnit) (start ahead : Nat) : Preload :=
  let seen := window units start ahead
  { images := (seen.flatMap (·.imageUrls)).eraseDups
    models := (seen.flatMap (·.modelUrls)).eraseDups
    audio := (seen.flatMap (·.audioUrls)).eraseDups }

end Preload

end VisualNovel
