/-
# The stage, unit by unit

The stage at a unit is found by looking backward, each part of it at the unit that said something
about it last. It can as well be built up by playing the units forward: each unit changes what it
says something about and leaves the rest. This module shows that the two agree, for every history.

The units that are looked at are counted in 64 bits. So the stage is what it should be at every
unit, and behind the last unit it is that of the last unit, as if one had gone there; but the count
for the greatest index of all overflows, and there is no stage there, in a story of any length.

A unit is counted as part of the history because of where it stands. Whether it was played does not
come into it; that is the business of `Proofs/Playback/Playthrough.lean`.
-/

import Mathlib.Data.List.Induction
import VisualNovel.Playback.Timeline

namespace VisualNovel

namespace Stage

/-- The stage with the background of the unit in place of the one before, be they still or
animated. -/
def withBackdrop (stage : Stage) (unit : StoryUnit) : Stage :=
  match unit.background, unit.live2d with
  | some still, _ => { stage with background := some still, live2d := none }
  | none, some live2d => { stage with background := none, live2d := some live2d }
  | none, none => stage

/-- The stage with the music of the unit in place of the music before. -/
def withMusic (stage : Stage) (unit : StoryUnit) : Stage :=
  match unit.music? with
  | some music => { stage with music := some music }
  | none => stage

/-- The stage with the characters of the unit, at rest, in place of those before; with nobody if the
unit has no characters and hides everything. -/
def withCast (stage : Stage) (unit : StoryUnit) : Stage :=
  if unit.cast.isEmpty then
    if unit.hidden = some .all then { stage with cast := [] } else stage
  else { stage with cast := unit.cast.map (·.atRest) }

/-- The stage after one more unit. -/
def after (stage : Stage) (unit : StoryUnit) : Stage :=
  ((stage.withBackdrop unit).withMusic unit).withCast unit

end Stage

/-- The unit changes nothing that stays on stage. -/
def StoryUnit.LeavesStage (unit : StoryUnit) : Prop :=
  unit.backdrop? = none ∧ unit.music? = none ∧ unit.lastingCast? = none
  deriving Decidable

namespace Stage

variable {units : List StoryUnit} {unit : StoryUnit} {stage : Stage}

theorem withBackdrop_eq (stage : Stage) (unit : StoryUnit) :
    stage.withBackdrop unit =
      { stage with
        background := (unit.backdrop?.getD (stage.background, stage.live2d)).1
        live2d := (unit.backdrop?.getD (stage.background, stage.live2d)).2 } := by
  unfold withBackdrop StoryUnit.backdrop?
  cases unit.background <;> cases unit.live2d <;> rfl

theorem withMusic_eq (stage : Stage) (unit : StoryUnit) :
    stage.withMusic unit = { stage with music := unit.music?.or stage.music } := by
  unfold withMusic
  cases unit.music? <;> rfl

theorem withCast_eq (stage : Stage) (unit : StoryUnit) :
    stage.withCast unit = { stage with cast := unit.lastingCast?.getD stage.cast } := by
  unfold withCast StoryUnit.lastingCast?
  by_cases hempty : unit.cast.isEmpty
  · by_cases hhides : unit.hidden = some .all
    · simp only [hempty, hhides, if_true, Option.getD_some]
    · simp only [hempty, hhides, if_true, if_false, Option.getD_none]
  · simp only [hempty, Bool.false_eq_true, if_false, Option.getD_some]

/-- The parts of the stage after a unit, each one new or as before. -/
theorem after_eq (stage : Stage) (unit : StoryUnit) :
    stage.after unit =
      { background := (unit.backdrop?.getD (stage.background, stage.live2d)).1
        live2d := (unit.backdrop?.getD (stage.background, stage.live2d)).2
        music := unit.music?.or stage.music
        cast := unit.lastingCast?.getD stage.cast } := by
  rw [after, withCast_eq, withMusic_eq, withBackdrop_eq]

theorem after_of_leavesStage (hleaves : unit.LeavesStage) : stage.after unit = stage := by
  obtain ⟨hbackdrop, hmusic, hcast⟩ := hleaves
  rw [after_eq, hbackdrop, hmusic, hcast]
  rfl

/-- One more unit at the end of the history has the same effect as playing it. -/
theorem ofHistory_concat (history : List StoryUnit) (unit : StoryUnit) :
    ofHistory (history ++ [unit]) = (ofHistory history).after unit := by
  simp only [ofHistory, List.reverse_append, List.reverse_singleton, List.singleton_append,
    List.findSome?_cons, after_eq]
  cases unit.backdrop? <;> cases unit.music? <;> cases unit.lastingCast? <;> rfl

/-- Looking backward finds the stage that playing forward builds up. -/
theorem ofHistory_eq_foldl (history : List StoryUnit) :
    ofHistory history = history.foldl after {} := by
  induction history using List.reverseRecOn with
  | nil => rfl
  | append_singleton history unit ih =>
    rw [ofHistory_concat, ih, List.foldl_append, List.foldl_cons, List.foldl_nil]

/-- At most one background is on stage, be it still or animated. -/
def OneBackdrop (stage : Stage) : Prop := stage.background = none ∨ stage.live2d = none

/-- A unit that brings a background of one sort takes away that of the other. -/
theorem OneBackdrop.after (hone : stage.OneBackdrop) (unit : StoryUnit) :
    (stage.after unit).OneBackdrop := by
  rw [OneBackdrop, after_eq, StoryUnit.backdrop?]
  cases unit.background with
  | some still => exact .inr rfl
  | none =>
    cases unit.live2d with
    | some live2d => exact .inl rfl
    | none => exact hone

theorem OneBackdrop.foldl (hone : stage.OneBackdrop) (history : List StoryUnit) :
    (history.foldl Stage.after stage).OneBackdrop := by
  induction history generalizing stage with
  | nil => exact hone
  | cons unit rest ih => exact ih (hone.after unit)

/-- Units that change nothing on stage can be left out at the end of a history. -/
theorem foldl_take_of_leavesStage {start stop : Nat} (hle : start ≤ stop)
    (hleaves : ∀ index, start ≤ index → index < stop → ∀ unit, units[index]? = some unit →
      unit.LeavesStage) :
    (units.take stop).foldl after stage = (units.take start).foldl after stage := by
  induction hle with
  | refl => rfl
  | @step stop hle ih =>
    have hbefore := ih fun index hstart hstop => hleaves index hstart (by omega)
    rw [List.take_add_one, List.foldl_append, hbefore]
    cases hunit : units[stop]? with
    | none => rfl
    | some unit => exact after_of_leavesStage (hleaves stop hle (by omega) unit hunit)

/-- The count is one more than the index, whenever there is one. -/
theorem countThrough_eq_ok_iff {index count : UInt64} :
    countThrough index = .ok count ↔ index.toNat + 1 = count.toNat := by
  rw [countThrough]
  split
  case isTrue hfits =>
    have hcount : (index + 1).toNat = index.toNat + 1 := by
      rw [UInt64.toNat_add]
      exact Nat.mod_eq_of_lt hfits
    rw [Except.ok.injEq, ← UInt64.toNat_inj, hcount]
  case isFalse hover =>
    have hlt := count.toNat_lt_size
    exact iff_of_false nofun (by omega)

/-- The count overflows at the greatest index alone. -/
theorem countThrough_eq_error_iff {index : UInt64} {panic : Panic} :
    countThrough index = .error panic ↔ index.toNat + 1 = UInt64.size := by
  rw [countThrough]
  split
  case isTrue hfits => exact iff_of_false nofun (Nat.ne_of_lt hfits)
  case isFalse hover =>
    have hlt := index.toNat_lt_size
    exact iff_of_true rfl (by omega)

end Stage

namespace Timeline

theorem stageAt_of_lt (timeline : Timeline) {index : UInt64}
    (hindex : index.toNat + 1 < UInt64.size) :
    timeline.stageAt index = .ok (Stage.ofHistory (timeline.units.take (index.toNat + 1))) := by
  have hvalue : (UInt64.ofNat (index.toNat + 1)).toNat = index.toNat + 1 :=
    UInt64.toNat_ofNat_of_lt' hindex
  have hcount := Stage.countThrough_eq_ok_iff.mpr hvalue.symm
  rw [stageAt, Stage.atIndex, hcount, Except.map, hvalue]

/-- As long as the number of the units up to a position fits in 64 bits, they are all that is looked
at there. -/
theorem stageAt_ofNat (timeline : Timeline) {index : Nat} (hindex : index + 1 < UInt64.size) :
    timeline.stageAt (UInt64.ofNat index) =
      .ok (Stage.ofHistory (timeline.units.take (index + 1))) := by
  have hvalue : (UInt64.ofNat index).toNat = index := UInt64.toNat_ofNat_of_lt' (by omega)
  rw [timeline.stageAt_of_lt (by rwa [hvalue]), hvalue]

/-- What looking backward finds at a unit is what playing all the units up to it builds up, one
after the other from the first; and there are never two backgrounds on stage. The number of the
units is itself held in 64 bits. -/
theorem stageAt_eq_foldl (timeline : Timeline) {index : UInt64}
    (hindex : index.toNat < timeline.units.length)
    (hlength : timeline.units.length < UInt64.size) :
    ∃ stage, timeline.stageAt index = .ok stage ∧
      stage = (timeline.units.take (index.toNat + 1)).foldl Stage.after {} ∧
      stage.OneBackdrop := by
  refine ⟨_, timeline.stageAt_of_lt (by omega), Stage.ofHistory_eq_foldl _, ?_⟩
  rw [Stage.ofHistory_eq_foldl]
  exact Stage.OneBackdrop.foldl (.inl rfl) _

end Timeline

namespace Sample

def theme : Music where
  url := "/Audio/BGM/Theme_01.ogg"
  volume := 1
  loopStart := 0
  loopEnd := 60
  loopTransition := 0
  loopOffset := 0

def lobby : Live2d where
  name := "CH0184_home"
  url := "/spine/CH0184_home/CH0184_home.skel"
  animation := "Idle_01"

def studentAt (position : UInt8) (effects : List CharacterEffect) : StagedCharacter where
  position
  id := 1001
  face := "02"
  highlighted := true
  signal := false
  model := "/spine/yuuka_spr/yuuka_spr.skel"
  effects

/-- A student waves in the courtyard, another one comes when everything is hidden, and the scene
ends in the lobby. -/
def evening : Timeline where
  units :=
    [{ background := some { url := "/bg/BG_Courtyard.jpg", overlap := none }
       audio := some { music := some theme } },
     { cast := [studentAt 1 [{ kind := .action, name := "wave", async := false }]] },
     { cast := [studentAt 3 [{ kind := .emotion, name := "Heart", async := true }]]
       audio := some {}, hidden := some .all },
     { kind := .effectOnly, live2d := some lobby, hidden := some .all }]

theorem stageAt_eq_foldl_evening :
    (2 : UInt64).toNat < evening.units.length ∧ (3 : UInt64).toNat < evening.units.length ∧
      evening.units.length < UInt64.size ∧
      evening.stageAt 2 =
        .ok { background := some { url := "/bg/BG_Courtyard.jpg", overlap := none }
              music := some theme
              cast := [studentAt 3 []] } ∧
      evening.stageAt 3 = .ok { live2d := some lobby, music := some theme } := by
  have hsecond : (2 : UInt64).toNat < evening.units.length := by decide
  have hthird : (3 : UInt64).toNat < evening.units.length := by decide
  have hlength : evening.units.length < UInt64.size := by decide
  obtain ⟨_, hsecondStage, rfl, _⟩ := evening.stageAt_eq_foldl hsecond hlength
  obtain ⟨_, hthirdStage, rfl, _⟩ := evening.stageAt_eq_foldl hthird hlength
  exact ⟨hsecond, hthird, hlength, hsecondStage, hthirdStage⟩

end Sample

namespace Timeline

/-- Going to a unit behind the last one leads to the last one. -/
theorem index_seek {timeline : Timeline} (hunits : timeline.units ≠ []) (index : Nat) :
    (timeline.seek index).index = min index (timeline.units.length - 1) := by
  rw [seek, if_neg (by rwa [List.isEmpty_iff])]

/-- There is no stage at the greatest index, and at that one alone. -/
theorem stageAt_eq_error_iff (timeline : Timeline) {index : UInt64} {panic : Panic} :
    timeline.stageAt index = .error panic ↔ index.toNat + 1 = UInt64.size := by
  have hcount := @Stage.countThrough_eq_error_iff index panic
  rw [stageAt, Stage.atIndex, ← hcount]
  cases Stage.countThrough index with
  | ok count => exact iff_of_false nofun nofun
  | error fault => rw [Except.map, Except.error.injEq, Except.error.injEq]

/-- Behind the last unit, the stage is that of the last unit. -/
theorem stageAt_of_length_le (timeline : Timeline) {index : UInt64}
    (hlast : timeline.units.length ≤ index.toNat + 1) (hindex : index.toNat + 1 < UInt64.size) :
    timeline.stageAt (.ofNat (timeline.units.length - 1)) = timeline.stageAt index := by
  rw [timeline.stageAt_of_lt hindex, timeline.stageAt_ofNat (by omega),
    List.take_of_length_le hlast, List.take_of_length_le (by omega)]

/-- The stage at an index is that at the unit to which one goes with it. -/
theorem stageAt_seek {timeline : Timeline} (hunits : timeline.units ≠ []) {index : UInt64}
    (hindex : index.toNat + 1 < UInt64.size) :
    timeline.stageAt (.ofNat (timeline.seek index.toNat).index) = timeline.stageAt index := by
  rw [index_seek hunits]
  rcases Nat.le_total index.toNat (timeline.units.length - 1) with hbefore | hbehind
  · rw [Nat.min_eq_left hbefore, UInt64.ofNat_toNat]
  · rw [Nat.min_eq_right hbehind]
    exact timeline.stageAt_of_length_le (by omega) hindex

/-- At the greatest index the count of the units overflows, whatever the units are. At every other
index there is a stage: the empty one in a story without units, else that at the unit to which one
goes with the index, and so behind the last unit that of the last unit. -/
theorem stageAt_clamped (timeline : Timeline) (index : UInt64) :
    (timeline.stageAt index = .error .overflow ↔ index.toNat + 1 = UInt64.size) ∧
      (index.toNat + 1 < UInt64.size → timeline.units = [] → timeline.stageAt index = .ok {}) ∧
      (index.toNat + 1 < UInt64.size → timeline.units ≠ [] →
        ∃ stage, timeline.stageAt index = .ok stage ∧
          timeline.stageAt (.ofNat (timeline.seek index.toNat).index) = .ok stage ∧
          (timeline.units.length ≤ index.toNat + 1 →
            timeline.stageAt (.ofNat (timeline.units.length - 1)) = .ok stage)) := by
  refine ⟨timeline.stageAt_eq_error_iff, ?_, ?_⟩
  · intro hfits hempty
    rw [timeline.stageAt_of_lt hfits, hempty, List.take_nil]
    rfl
  · intro hfits hunits
    have hstage := timeline.stageAt_of_lt hfits
    refine ⟨_, hstage, (stageAt_seek hunits hfits).trans hstage, ?_⟩
    intro hlast
    exact (timeline.stageAt_of_length_le hlast hfits).trans hstage

end Timeline

namespace Sample

/-- A story of one unit, which leads to the courtyard. -/
def courtyard : Timeline where
  units := [{ kind := .effectOnly
              background := some { url := "/bg/BG_Courtyard.jpg", overlap := none } }]

theorem stageAt_clamped_courtyard :
    ({ units := [] } : Timeline).stageAt 99 = .ok {} ∧
      (99 : UInt64).toNat + 1 < UInt64.size ∧ courtyard.units ≠ [] ∧
      courtyard.units.length ≤ (99 : UInt64).toNat + 1 ∧
      ∃ stage, courtyard.stageAt 99 = .ok stage ∧ courtyard.stageAt 0 = .ok stage := by
  have hfits : (99 : UInt64).toNat + 1 < UInt64.size := by decide
  have hunits : courtyard.units ≠ [] := by decide
  have hlast : courtyard.units.length ≤ (99 : UInt64).toNat + 1 := by decide
  obtain ⟨stage, hstage, _, hclamped⟩ := (courtyard.stageAt_clamped 99).2.2 hfits hunits
  exact ⟨(Timeline.stageAt_clamped { units := [] } 99).2.1 hfits rfl, hfits, hunits, hlast, stage,
    hstage, hclamped hlast⟩

/-- Behind the last unit, the stage is not that of the last unit at every index. -/
theorem not_stageAt_eq_last :
    ¬ ∀ (timeline : Timeline) (index : UInt64), timeline.units ≠ [] →
        timeline.units.length ≤ index.toNat + 1 →
        ∃ stage, timeline.stageAt index = .ok stage ∧
          timeline.stageAt (.ofNat (timeline.units.length - 1)) = .ok stage := by
  intro hall
  obtain ⟨stage, hstage, _⟩ :=
    hall courtyard (.ofNat (UInt64.size - 1)) (by decide) (by decide)
  have hover : courtyard.stageAt (.ofNat (UInt64.size - 1)) = .error .overflow := by rfl
  exact absurd (hover.symm.trans hstage) nofun

end Sample
end VisualNovel
