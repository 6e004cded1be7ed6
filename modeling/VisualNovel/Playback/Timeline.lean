/-
# Playing a story

A timeline is a position in a story and the choices made on the way there. A unit of a branch is
played only if the branch is the one that was chosen last. Going back forgets the choices that were
made at the position gone to and after it.
-/

import VisualNovel.Playback.Stage

namespace VisualNovel

/-- An answer that the player has given. -/
structure Answer where
  /-- The index of the unit that asked. -/
  index : Nat
  /-- The branch that was chosen. -/
  branch : UInt32
  deriving DecidableEq, Repr

/-- A position in a story. -/
structure Timeline where
  units : List StoryUnit
  index : Nat := 0
  /-- The choices made so far, latest first. -/
  answers : List Answer := []

namespace Timeline

/-- The unit at the position. -/
def current? (timeline : Timeline) : Option StoryUnit := timeline.units[timeline.index]?

/-- The branch that was chosen last. -/
def chosen? (timeline : Timeline) : Option UInt32 := timeline.answers.head?.map (·.branch)

/-- Chooses a branch at the position. A choice already made there is changed. -/
def choose (timeline : Timeline) (branch : UInt32) : Timeline :=
  let earlier := match timeline.answers with
    | [] => []
    | last :: rest => if last.index = timeline.index then rest else last :: rest
  { timeline with answers := ⟨timeline.index, branch⟩ :: earlier }

/-- Whether the unit is played on the chosen branch. -/
def plays (timeline : Timeline) (unit : StoryUnit) : Bool :=
  unit.branch == 0 || timeline.chosen? == some unit.branch

/-- The index of the first unit that is played at or after the given one. -/
def nextInBranch? (timeline : Timeline) (start : Nat) : Option Nat :=
  ((timeline.units.drop start).findIdx? timeline.plays).map (start + ·)

/-- Goes on to the next unit that is played; at the end of the story nothing changes. -/
def advance? (timeline : Timeline) : Option Timeline :=
  (timeline.nextInBranch? (timeline.index + 1)).map fun next => { timeline with index := next }

/-- Goes to the unit with the given index, or to the last one, and forgets the choices made from
there on. A story without units has no positions to go to. -/
def seek (timeline : Timeline) (index : Nat) : Timeline :=
  if timeline.units.isEmpty then timeline
  else
    let index := min index (timeline.units.length - 1)
    { timeline with
      index
      answers := timeline.answers.dropWhile fun answer => index ≤ answer.index }

/-- What is on stage at the unit with the given index. -/
def stageAt (timeline : Timeline) (index : UInt64) : Except Panic Stage :=
  Stage.atIndex timeline.units index

end Timeline

end VisualNovel
