/-
# The stage

What is on stage at a unit is the work of all the units up to it. A background stays until another
one comes, be it still or animated; music stays until other music starts; and characters stay until
a unit has characters of its own or hides everything. So each is found by looking backward for the
unit that said something about it last.
-/

import VisualNovel.Story.Unit

namespace VisualNovel

/-- A fault of the program itself, which ends it. -/
inductive Panic where
  /-- A sum does not fit the width of its terms. -/
  | overflow
  deriving DecidableEq, Repr

/-- What is on stage. -/
structure Stage where
  background : Option Background := none
  live2d : Option Live2d := none
  music : Option Music := none
  cast : List StagedCharacter := []
  deriving DecidableEq

namespace StoryUnit

/-- The background that the unit brings, still or animated. -/
def backdrop? (unit : StoryUnit) : Option (Option Background × Option Live2d) :=
  match unit.background, unit.live2d with
  | some still, _ => some (some still, none)
  | none, some live2d => some (none, some live2d)
  | none, none => none

/-- The music that the unit starts. -/
def music? (unit : StoryUnit) : Option Music := unit.audio.bind (·.music)

/-- The characters that the unit leaves on stage, if it says anything about them. -/
def lastingCast? (unit : StoryUnit) : Option (List StagedCharacter) :=
  if unit.cast.isEmpty then
    if unit.hidden = some .all then some [] else none
  else some (unit.cast.map (·.atRest))

end StoryUnit

namespace Stage

/-- What is on stage after the units. -/
def ofHistory (history : List StoryUnit) : Stage :=
  let backdrop := (history.reverse.findSome? (·.backdrop?)).getD (none, none)
  { background := backdrop.1
    live2d := backdrop.2
    music := history.reverse.findSome? (·.music?)
    cast := (history.reverse.findSome? (·.lastingCast?)).getD [] }

/-- How many units there are up to the given index of 64 bits. They are counted in 64 bits as well,
and at the greatest index the count overflows. -/
def countThrough (index : UInt64) : Except Panic UInt64 :=
  if index.toNat + 1 < UInt64.size then .ok (index + 1) else .error .overflow

/-- What is on stage at the unit with the given index. The units up to it are counted before they
are looked for, so that the greatest index is a fault in a story of any length. -/
def atIndex (units : List StoryUnit) (index : UInt64) : Except Panic Stage :=
  (countThrough index).map fun count => ofHistory (units.take count.toNat)

end Stage

end VisualNovel
