/-
# The pauses that are kept

A run waits once. Where several pauses stand in front of one stretch of text, with nothing between
them that is shown, the last of them counts and those before it are gone. So the pauses of the runs
are the pauses of the text, in order, that are followed by text before the next pause comes.

The lengths compared here are those that fit into 32 bits and are written in ASCII digits. Nothing
is said of a stretch whose pause is another.
-/

import VisualNovel.Proofs.Dialogue.Runs

namespace VisualNovel.Dialogue

open Text

/-- The digits of the last pause in front of the stretch. -/
def Stretch.pause? (stretch : Stretch) : Option (List Char) :=
  (stretch.tags.filterMap Tag.pause?).getLast?

variable {raw text : List Char} {player : String} {styled : Bool} {stretches : List Stretch}
  {last : List Tag}

/-- The pauses of the runs are, in order, those pauses of the text that stand in front of text with
no other pause between. -/
theorem pauses_of_cut (hshown : IsShown raw player text) (hcut : Cut stretches last text)
    (hlengths : ∀ stretch ∈ stretches, ∀ digits ∈ stretch.pause?, IsLength digits) :
    ((runs raw styled player).filterMap (·.pause)).map UInt32.toNat =
      (stretches.filterMap Stretch.pause?).map number := by
  have hpauses : (runs raw styled player).map (·.pause) =
      stretches.map fun stretch => pauseBehind? stretch.tags := by
    rw [runs_of_cut styled hshown hcut]
    exact map_shown (fun _ _ => rfl) stretches
  have hkept : (runs raw styled player).filterMap (·.pause) =
      stretches.filterMap fun stretch => pauseBehind? stretch.tags := by
    simpa only [List.filterMap_map, Function.id_comp] using
      congrArg (List.filterMap id) hpauses
  rw [hkept, List.map_filterMap, List.map_filterMap]
  refine List.filterMap_congr fun stretch hstretch => ?_
  change ((stretch.pause?.bind pauseLength?).map UInt32.toNat) = stretch.pause?.map number
  cases hpause : stretch.pause? with
  | none => rfl
  | some digits =>
    have hdigits := hlengths stretch hstretch digits hpause
    rw [Option.bind_some, pauseLength?, if_pos hdigits, Option.map_some, Option.map_some,
      UInt32.toNat_ofNat_of_lt' hdigits.2]

end Dialogue

namespace Sample

open Dialogue Text

/-- A greeting with four pauses. One of them has another right behind it and one has no text behind
it, and the other two are kept. -/
def pausedGreeting : List Char := "[wa:500]Hi[b][wa:1][wa:20]there[wa:3]".toList

def pausedStretches : List Stretch :=
  [⟨[.pause "500".toList], "Hi".toList⟩,
    ⟨[.bold, .pause "1".toList, .pause "20".toList], "there".toList⟩]

theorem cut_pausedGreeting : Cut pausedStretches [.pause "3".toList] pausedGreeting := by
  have hfirst : Written [.pause "500".toList] (bracketed "wa:500".toList ++ []) :=
    .cons (Tag.isWritten_of_ofBody? (by decide) (by decide)) .nil
  have hsecond : Written [.bold, .pause "1".toList, .pause "20".toList]
      (bracketed "b".toList ++ (bracketed "wa:1".toList ++ (bracketed "wa:20".toList ++ []))) :=
    .cons (Tag.isWritten_of_ofBody? (by decide) (by decide)) <|
      .cons (Tag.isWritten_of_ofBody? (by decide) (by decide)) <|
      .cons (Tag.isWritten_of_ofBody? (by decide) (by decide)) .nil
  have hlast : Written [.pause "3".toList] (bracketed "wa:3".toList ++ []) :=
    .cons (Tag.isWritten_of_ofBody? (by decide) (by decide)) .nil
  have hthere : Cut pausedStretches.tail [.pause "3".toList] (_ ++ ("there".toList ++ _)) :=
    .cons hsecond (by decide) (opensMarks_tag.free_of_notMem (by decide)) (.done hlast) (by simp)
  have hwhole : Cut pausedStretches [.pause "3".toList] (_ ++ ("Hi".toList ++ _)) :=
    .cons hfirst (by decide) (opensMarks_tag.free_of_notMem (by decide)) hthere (by decide)
  exact hwhole

theorem pauses_pausedGreeting :
    ((runs pausedGreeting true "").filterMap (·.pause)).map UInt32.toNat = [500, 20] :=
  (pauses_of_cut (isShown_self (by decide) (by decide)) cut_pausedGreeting (by decide)).trans
    (by decide)

/-- Not every pause is kept that has text behind it somewhere. -/
theorem not_pauses_eq_all :
    ¬ ∀ (raw text : List Char) (player : String) (styled : Bool) (stretches : List Stretch)
        (last : List Tag), IsShown raw player text → Cut stretches last text →
        last.filterMap Tag.pause? = [] →
        ((runs raw styled player).filterMap (·.pause)).map UInt32.toNat =
          ((stretches.flatMap (·.tags)).filterMap Tag.pause?).map fun digits =>
            min (number digits) (UInt32.size - 1) := by
  intro hall
  have hshown : IsShown "[wa:500][wa:600]x".toList "" "[wa:500][wa:600]x".toList :=
    isShown_self (by decide) (by decide)
  have hwritten : Written [.pause "500".toList, .pause "600".toList]
      (bracketed "wa:500".toList ++ (bracketed "wa:600".toList ++ [])) :=
    .cons (Tag.isWritten_of_ofBody? (by decide) (by decide)) <|
      .cons (Tag.isWritten_of_ofBody? (by decide) (by decide)) .nil
  have hcut : Cut [⟨[.pause "500".toList, .pause "600".toList], "x".toList⟩] []
      (_ ++ ("x".toList ++ [])) :=
    .cons hwritten (by decide) (opensMarks_tag.free_of_notMem (by decide)) (.done .nil) (by simp)
  have hboth := hall _ _ "" true _ [] hshown hcut rfl
  rw [runs_of_cut true hshown hcut] at hboth
  exact absurd hboth (by decide)

end Sample
end VisualNovel
