/-
# Units are well formed

Whatever the tables, the settings and the rows, a story that is staged has one unit a row, and no
unit asks playback for something it cannot show: two characters in one slot, a slot that is not
there, two backgrounds at once, a transition beside the fade that stands for it, or a cast in the
dark.

That slots are not shared is kept by every single directive, and this needs nothing of the units
before: a character who is brought back goes into the very slot that was found free. The backgrounds
and the transition are decided before the script is read, and the light after it.
-/

import VisualNovel.Proofs.Staging.Cast
import VisualNovel.Proofs.Staging.Run

namespace VisualNovel

open Script

/-- What playback relies on in a unit. -/
structure StoryUnit.WellFormed (unit : StoryUnit) : Prop where
  /-- Nobody shares a slot, and everybody stands in one of the five. -/
  placed : Cast.WellPlaced unit.cast
  /-- The background is still or animated, but not both. -/
  oneBackground : ¬ (unit.background.isSome ∧ unit.live2d.isSome)
  /-- A background that fades over the one before it takes the place of the transition. -/
  fade : ∀ background, unit.background = some background → background.overlap.isSome →
    unit.transition = none
  /-- Unless nobody is there, somebody is lit. -/
  lit : unit.cast ≠ [] → ∃ character ∈ unit.cast, character.highlighted = true

namespace Scene

variable (scene : Scene)

theorem opening_oneBackground :
    ¬ (scene.opening.background.isSome ∧ scene.opening.live2d.isSome) := by
  change ¬ (scene.still?.isSome ∧ scene.live2d?.isSome)
  unfold still? live2d?
  cases scene.backgroundRecord? with
  | none => simp
  | some record => by_cases hkind : record.kind = .spine <;> simp [hkind]

theorem opening_fade {background : Background}
    (hbackground : scene.opening.background = some background)
    (hoverlap : background.overlap.isSome) : scene.opening.transition = none := by
  change scene.still? = some background at hbackground
  change scene.ownTransition? = none
  rw [ownTransition?, hbackground]
  exact if_pos hoverlap

end Scene

/-- When everything else is done somebody is lit. -/
theorem Cast.exists_highlighted_lit {cast : List StagedCharacter} (hcast : Cast.lit cast ≠ []) :
    ∃ character ∈ Cast.lit cast, character.highlighted = true := by
  unfold Cast.lit at hcast ⊢
  by_cases hlit : cast.any (·.highlighted) = true
  · rw [if_pos hlit]
    simpa using hlit
  · rw [if_neg hlit] at hcast ⊢
    obtain ⟨character, hmem⟩ := List.exists_mem_of_ne_nil _ hcast
    refine ⟨character, hmem, ?_⟩
    obtain ⟨_, _, rfl⟩ := List.mem_map.mp hmem
    rfl

/-- Every row that is staged makes a well-formed unit, whatever units stand before it. -/
theorem Scene.wellFormed_of_stage {scene : Scene} {unit : StoryUnit} {reports : List StagingError}
    (hstage : scene.stage = (.ok unit, reports)) : unit.WellFormed := by
  have hcolumns := Scene.columns_of_stage hstage
  have hbackground := congrArg StoryUnit.background hcolumns
  have hlive2d := congrArg StoryUnit.live2d hcolumns
  have htransition := congrArg StoryUnit.transition hcolumns
  change unit.background = scene.opening.background at hbackground
  change unit.live2d = scene.opening.live2d at hlive2d
  change unit.transition = scene.opening.transition at htransition
  obtain ⟨last, hrun, rfl⟩ := Scene.stage_eq_ok_iff.mp hstage
  have hplaced : Cast.WellPlaced last.cast := by
    refine Scene.applyAll_induction (motive := fun _ next _ => Cast.WellPlaced next.cast)
      Cast.wellPlaced_nil ?_ hrun
    intro done before directive after earlier later hbefore happly
    obtain ⟨cast, hcast, rfl, _⟩ := Scene.apply_eq_ok_iff.mp happly
    exact hbefore.of_after hcast
  constructor
  · exact hplaced.of_positions_eq Cast.positions_lit
  · rw [hbackground, hlive2d]
    exact scene.opening_oneBackground
  · intro background hsome hoverlap
    rw [htransition]
    exact scene.opening_fade (hbackground.symm.trans hsome) hoverlap
  · exact Cast.exists_highlighted_lit

/-- A story that is staged has one unit a row, in order and with the group and the branch of the
row, and all its units are well formed. That nobody shares a slot and everybody stands in one of the
five is kept by every directive found in a text, in whatever unit and scene it is applied. -/
theorem Story.wellFormed_of_ofRows :
    (∀ (context : StagingContext) (rows : List Row) (story : Story),
      Story.ofRows context rows = .ok story →
        List.Forall₂ (fun row unit => unit.group = row.group ∧ unit.branch = row.branch)
          rows story.units ∧
        ∀ unit ∈ story.units, unit.WellFormed) ∧
    ∀ (scene : Scene) (text : List Char) (found : Match) (unit next : StoryUnit)
      (reports : List StagingError),
      match? text = some found →
      Cast.WellPlaced unit.cast →
      (∀ earlier ∈ scene.earlier, Cast.WellPlaced earlier.cast) →
      scene.apply unit found.directive = .ok (next, reports) →
      Cast.WellPlaced next.cast := by
  constructor
  · intro context rows story hstory
    obtain ⟨last, hrun, rfl⟩ := Story.ofRows_eq_ok_iff.mp hstory
    refine Staging.run_induction
      (motive := fun rows staging =>
        List.Forall₂ (fun row unit => unit.group = row.group ∧ unit.branch = row.branch)
          rows staging.units ∧ ∀ unit ∈ staging.units, unit.WellFormed)
      ⟨.nil, by simp⟩ ?_ hrun
    rintro done staging row unit next ⟨hmatch, hformed⟩ hpush
    obtain ⟨reports, hstage, rfl⟩ := Staging.push_eq_ok_iff.mp hpush
    have hcolumns := Scene.columns_of_stage hstage
    constructor
    · exact List.rel_append hmatch (.cons ⟨congrArg StoryUnit.group hcolumns,
        congrArg StoryUnit.branch hcolumns⟩ .nil)
    · intro other hother
      rcases List.mem_append.mp hother with hold | hnew
      · exact hformed other hold
      · rw [List.mem_singleton.mp hnew]
        exact Scene.wellFormed_of_stage hstage
  · intro scene text found unit next reports _ hplaced _ happly
    obtain ⟨cast, hcast, rfl, _⟩ := Scene.apply_eq_ok_iff.mp happly
    exact hplaced.of_after hcast

/-- The story of three rows is well formed, and so is a unit in which a directive with another one
behind it brings back a character of its first unit. -/
theorem Sample.wellFormed_story :
    (List.Forall₂ (fun row unit => unit.group = row.group ∧ unit.branch = row.branch)
        Sample.rows Sample.story.units ∧
      ∀ unit ∈ Sample.story.units, unit.WellFormed) ∧
    ∃ found next, match? "#1;a;hop;#wait;5".toList = some found ∧
      found.rest = "#wait;5".toList ∧
      Sample.secondScene.apply {} found.directive = .ok (next, []) ∧
      next.cast = [Sample.yuuka "02" [⟨.action, "hop", false⟩]] ∧
      Cast.WellPlaced next.cast := by
  obtain ⟨hstory, hdirective⟩ := Story.wellFormed_of_ofRows
  have hsample := hstory Sample.context Sample.rows Sample.story Sample.ofRows_eq
  have hearlier : ∀ earlier ∈ Sample.secondScene.earlier, Cast.WellPlaced earlier.cast :=
    fun earlier hmem => (hsample.2 earlier (List.mem_of_mem_take hmem)).placed
  have hfound : match? "#1;a;hop;#wait;5".toList =
      some ⟨.characterEffect 0 "a".toList "hop".toList none, "#1;a;hop;".toList,
        "#wait;5".toList⟩ := by decide +kernel
  refine ⟨hsample, _, _, hfound, rfl, rfl, rfl, ?_⟩
  exact hdirective Sample.secondScene _ _ {} _ [] hfound Cast.wellPlaced_nil hearlier rfl

end VisualNovel
