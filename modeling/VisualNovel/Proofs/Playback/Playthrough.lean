/-
# Playing a story through

A player starts at the first unit, answers the choices and goes on. The positions at which the
player has been are the path of the playthrough. Every unit that a path passes over belongs to a
branch.

What is on stage at the end of a path ought to be the work of the units on it. It is, as long as the
units that were passed over change nothing on stage. When one of them does, it shows: the stage is
found by looking back over all the units, and whether one of them was played is not looked at. The
two stories at the end show both.
-/

import VisualNovel.Proofs.Playback.Stage

namespace VisualNovel

namespace Timeline

variable {timeline next : Timeline}

/-- The next unit in the branch is the first from the given position on that is played. -/
theorem nextInBranch?_eq_some_iff {start position : Nat} :
    timeline.nextInBranch? start = some position ↔
      start ≤ position ∧
        (∃ unit, timeline.units[position]? = some unit ∧ timeline.plays unit) ∧
        ∀ index, start ≤ index → index < position →
          ∀ unit, timeline.units[index]? = some unit → ¬ timeline.plays unit := by
  simp only [nextInBranch?, Option.map_eq_some_iff, List.findIdx?_eq_some_iff_getElem,
    List.length_drop, List.getElem_drop]
  constructor
  · rintro ⟨offset, ⟨hoffset, hplays, hbefore⟩, rfl⟩
    refine ⟨by omega, ⟨_, List.getElem?_eq_getElem (by omega), hplays⟩, ?_⟩
    intro index hstart hposition unit hunit
    obtain ⟨hlength, rfl⟩ := List.getElem?_eq_some_iff.mp hunit
    have hskipped := hbefore (index - start) (by omega)
    simpa only [Nat.add_sub_cancel' hstart] using hskipped
  · rintro ⟨hstart, ⟨unit, hunit, hplays⟩, hbefore⟩
    obtain ⟨hlength, rfl⟩ := List.getElem?_eq_some_iff.mp hunit
    refine ⟨position - start, ⟨by omega, ?_, ?_⟩, by omega⟩
    · simpa only [Nat.add_sub_cancel' hstart] using hplays
    · intro offset hoffset
      exact hbefore (start + offset) (by omega) (by omega) _ (List.getElem?_eq_getElem _)

/-- Going on leads to the first unit behind the position that is played, and changes nothing but the
position. -/
theorem advance?_eq_some_iff :
    timeline.advance? = some next ↔
      timeline.index < next.index ∧
        (∃ unit, timeline.units[next.index]? = some unit ∧ timeline.plays unit) ∧
        (∀ index, timeline.index < index → index < next.index →
          ∀ unit, timeline.units[index]? = some unit → ¬ timeline.plays unit) ∧
        next = { timeline with index := next.index } := by
  rw [advance?, Option.map_eq_some_iff]
  constructor
  · rintro ⟨position, hposition, rfl⟩
    obtain ⟨hlater, hplayed, hskips⟩ := nextInBranch?_eq_some_iff.mp hposition
    exact ⟨hlater, hplayed, hskips, rfl⟩
  · rintro ⟨hlater, hplayed, hskips, hnext⟩
    exact ⟨next.index, nextInBranch?_eq_some_iff.mpr ⟨hlater, hplayed, hskips⟩, hnext.symm⟩

/-- A unit outside of all branches is played whatever was chosen. -/
theorem branch_ne_zero_of_not_plays {unit : StoryUnit} (hskipped : ¬ timeline.plays unit) :
    unit.branch ≠ 0 := by
  intro hbranch
  exact hskipped (by rw [plays, hbranch, beq_self_eq_true, Bool.true_or])

end Timeline

/-- The timeline is reached from the start of the story by choosing and going on, along the path of
the positions visited, the present one last. Going on at the end of the story changes nothing, and
is no step. -/
inductive Played (units : List StoryUnit) : Timeline → List Nat → Prop
  /-- Playing starts at the first unit. -/
  | start : Played units { units } [0]
  | choose {timeline : Timeline} {path : List Nat} (branch : UInt32) :
    Played units timeline path → Played units (timeline.choose branch) path
  | advance {timeline next : Timeline} {path : List Nat} :
    Played units timeline path → timeline.advance? = some next →
      Played units next (path ++ [next.index])

namespace Played

variable {units : List StoryUnit} {timeline : Timeline} {path : List Nat}

/-- Playing does not change the story. -/
theorem units_eq (hplayed : Played units timeline path) : timeline.units = units := by
  induction hplayed with
  | start => rfl
  | choose branch _ ih => exact ih
  | advance _ hadvance ih =>
    obtain ⟨_, _, _, hnext⟩ := Timeline.advance?_eq_some_iff.mp hadvance
    rw [hnext]
    exact ih

/-- The present position is on the path. -/
theorem index_mem (hplayed : Played units timeline path) : timeline.index ∈ path := by
  induction hplayed with
  | start => exact List.mem_singleton_self _
  | choose branch _ ih => exact ih
  | advance _ _ _ => exact List.mem_append_right _ (List.mem_singleton_self _)

/-- The present position is in the story, or the story is empty and playing never got anywhere. -/
theorem index_lt (hplayed : Played units timeline path) :
    timeline.index < units.length ∨ timeline.index = 0 := by
  induction hplayed with
  | start => exact .inr rfl
  | choose branch _ ih => exact ih
  | advance hbefore hadvance _ =>
    obtain ⟨_, ⟨unit, hunit, _⟩, _⟩ := Timeline.advance?_eq_some_iff.mp hadvance
    rw [hbefore.units_eq] at hunit
    exact .inl (List.getElem?_eq_some_iff.mp hunit).1

/-- No position on a path comes after the present one. -/
theorem le_index (hplayed : Played units timeline path) :
    ∀ index ∈ path, index ≤ timeline.index := by
  induction hplayed with
  | start => simp
  | choose branch _ ih => exact ih
  | advance _ hadvance ih =>
    have hlater := (Timeline.advance?_eq_some_iff.mp hadvance).1
    intro index hindex
    rcases List.mem_append.mp hindex with hearlier | hlast
    · have hbefore := ih index hearlier
      omega
    · exact Nat.le_of_eq (List.mem_singleton.mp hlast)

/-- Whatever a path passes over belongs to a branch. -/
theorem branch_ne_zero_of_not_mem (hplayed : Played units timeline path) {index : Nat}
    (hbefore : index < timeline.index) (hpassed : index ∉ path) {unit : StoryUnit}
    (hunit : units[index]? = some unit) : unit.branch ≠ 0 := by
  induction hplayed with
  | start => simp at hbefore
  | choose branch _ ih => exact ih hbefore hpassed
  | @advance timeline next path hearlier hadvance ih =>
    obtain ⟨_, _, hskips, _⟩ := Timeline.advance?_eq_some_iff.mp hadvance
    simp only [List.mem_append, List.mem_singleton, not_or] at hpassed
    rcases Nat.lt_or_ge index timeline.index with hold | hnew
    · exact ih hold hpassed.1
    · have hne : index ≠ timeline.index := fun heq => hpassed.1 (heq ▸ hearlier.index_mem)
      rw [← hearlier.units_eq] at hunit
      exact Timeline.branch_ne_zero_of_not_plays
        (hskips index (by omega) hbefore unit hunit)

/-- If the units that were passed over change nothing on stage, then the units on the path make the
same stage as all the units up to the present one. -/
theorem foldl_path (hplayed : Played units timeline path)
    (hleaves : ∀ index < timeline.index, index ∉ path → ∀ unit, units[index]? = some unit →
      unit.LeavesStage) :
    (path.filterMap (units[·]?)).foldl Stage.after {} =
      (units.take (timeline.index + 1)).foldl Stage.after {} := by
  induction hplayed with
  | start => cases units <;> rfl
  | choose branch _ ih => exact ih hleaves
  | @advance timeline next path hbefore hadvance ih =>
    have hlater := (Timeline.advance?_eq_some_iff.mp hadvance).1
    have hpassed : ∀ index < next.index, index ∉ path → index ∉ path ++ [next.index] := by
      intro index hindex hpassed hmem
      rcases List.mem_append.mp hmem with hpath | hlast
      · exact hpassed hpath
      · exact absurd (List.mem_singleton.mp hlast) (Nat.ne_of_lt hindex)
    have hearlier := ih fun index hindex hold =>
      hleaves index (by omega) (hpassed index (by omega) hold)
    -- Between the two positions, nothing is on the path.
    have hbetween : (units.take next.index).foldl Stage.after {} =
        (units.take (timeline.index + 1)).foldl Stage.after {} := by
      refine Stage.foldl_take_of_leavesStage hlater fun index hstart hstop =>
        hleaves index hstop (hpassed index hstop fun hpath => ?_)
      have hle := hbefore.le_index index hpath
      omega
    have hlast : [next.index].filterMap (units[·]?) = units[next.index]?.toList := by
      cases hunit : units[next.index]? <;> simp [hunit]
    rw [List.filterMap_append, List.foldl_append, hearlier, ← hbetween, hlast, List.take_add_one,
      List.foldl_append]

/-- Every unit up to the present one counts for the stage, be it on the path or not. Those that were
passed over belong to branches, and if none of them changes anything on stage, then the stage is the
work of the units on the path alone. -/
theorem stageAt_index (hplayed : Played units timeline path)
    (hlength : units.length < UInt64.size) :
    timeline.stageAt (.ofNat timeline.index) =
        .ok ((units.take (timeline.index + 1)).foldl Stage.after {}) ∧
      (∀ index < timeline.index, index ∉ path → ∀ unit, units[index]? = some unit →
        unit.branch ≠ 0) ∧
      ((∀ index < timeline.index, index ∉ path → ∀ unit, units[index]? = some unit →
          unit.LeavesStage) →
        timeline.stageAt (.ofNat timeline.index) =
          .ok ((path.filterMap (units[·]?)).foldl Stage.after {})) := by
  have hindex : timeline.index + 1 < UInt64.size := by
    have hsize : 1 < UInt64.size := by decide
    rcases hplayed.index_lt with hinside | hstart <;> omega
  have hall : timeline.stageAt (.ofNat timeline.index) =
      .ok ((units.take (timeline.index + 1)).foldl Stage.after {}) := by
    rw [timeline.stageAt_ofNat hindex, hplayed.units_eq, Stage.ofHistory_eq_foldl]
  refine ⟨hall, ?_, ?_⟩
  · intro index hbefore hpassed unit hunit
    exact hplayed.branch_ne_zero_of_not_mem hbefore hpassed hunit
  · intro hleaves
    rw [hall, hplayed.foldl_path hleaves]

end Played

namespace Sample

/-- A choice between two branches, one unit on each, and a unit after them. The first branch leads
to the courtyard. -/
def detour (elsewhere : Option Background) : List StoryUnit :=
  [{ group := 1, kind := .choice
     text := { choices := [{ branch := 1, text := "Out" }, { branch := 2, text := "Up" }] } },
   { group := 1, branch := 1, kind := .effectOnly
     background := some { url := "/bg/BG_Courtyard.jpg", overlap := none } },
   { group := 1, branch := 2, kind := .effectOnly, background := elsewhere },
   { group := 2, kind := .text }]

/-- The end of the story, after the first answer. -/
def outside (elsewhere : Option Background) : Timeline :=
  { units := detour elsewhere, index := 3, answers := [⟨0, 1⟩] }

theorem played_outside (elsewhere : Option Background) :
    Played (detour elsewhere) (outside elsewhere) [0, 1, 3] := by
  have hchosen : Played (detour elsewhere) { units := detour elsewhere, answers := [⟨0, 1⟩] } [0] :=
    .choose 1 .start
  have hcourtyard : Played (detour elsewhere)
      { units := detour elsewhere, index := 1, answers := [⟨0, 1⟩] } [0, 1] := .advance hchosen rfl
  exact .advance hcourtyard rfl

/-- If the other branch changes nothing, the player stays in the courtyard. -/
theorem stageAt_index_outside :
    Played (detour none) (outside none) [0, 1, 3] ∧ (detour none).length < UInt64.size ∧
      (∀ index < 3, index ∉ [0, 1, 3] → ∀ unit, (detour none)[index]? = some unit →
        unit.LeavesStage) ∧
      (outside none).stageAt (.ofNat 3) =
        .ok { background := some { url := "/bg/BG_Courtyard.jpg", overlap := none } } := by
  have hplayed := played_outside none
  have hlength : (detour none).length < UInt64.size := by decide
  have hleaves : ∀ index < 3, index ∉ [0, 1, 3] → ∀ unit, (detour none)[index]? = some unit →
      unit.LeavesStage := by
    intro index hindex hpassed unit hunit
    have hsecond : index = 2 := by
      simp only [List.mem_cons, List.not_mem_nil] at hpassed
      omega
    subst hsecond
    cases hunit
    exact ⟨rfl, rfl, rfl⟩
  exact ⟨hplayed, hlength, hleaves, (hplayed.stageAt_index hlength).2.2 hleaves⟩

/-- A rooftop that the player has not been to. -/
def rooftop : Background := { url := "/bg/BG_Rooftop.jpg", overlap := none }

/-- If the other branch leads to the rooftop, that is where the stage is set, and not in the
courtyard, where the player has been. -/
theorem stageAt_rooftop_ne :
    Played (detour rooftop) (outside rooftop) [0, 1, 3] ∧
      ∃ stage, (outside rooftop).stageAt (.ofNat (outside rooftop).index) = .ok stage ∧
        stage.background = some rooftop ∧
        stage ≠ ([0, 1, 3].filterMap ((detour rooftop)[·]?)).foldl Stage.after {} := by
  refine ⟨played_outside rooftop, _, rfl, rfl, ?_⟩
  intro hsame
  have hbackground := congrArg Stage.background hsame
  revert hbackground
  decide

end Sample
end VisualNovel
