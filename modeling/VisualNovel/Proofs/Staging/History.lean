/-
# The cast follows the script

Who stands in a slot, and what is seen there, is decided by the script alone: by the last call into
the slot since the story began, and by the effects in the slot since the row began. The stage keeps
no such record. It finds the character by looking back through the units, each of which may itself
show a character who was only brought back.

The invariant that carries the proof compares the two for one slot at a time: what is seen in the
unit that is being made, or else was seen last before it, is what the last call settled. It is kept
by every directive, and at the end of a row it is the same statement about the longer list of units.
-/

import VisualNovel.Proofs.Staging.WellFormed

namespace VisualNovel

open Script

namespace StagingContext

/-- The call, by a name and with a face, settles the appearance. -/
def Settles (context : StagingContext) (shown : Appearance) (call : List Char × List Char) : Prop :=
  context.appearance? call.1 call.2 = some shown

/-- What is seen last in a slot of the units is what the last call of the script settled, and
nothing was ever seen in a slot into which nobody was called. -/
def Remembers (context : StagingContext) (script : List Directive) (units : List StoryUnit) :
    Prop :=
  ∀ slot : Slot, Option.Rel context.Settles
    (Cast.lastSeen? units units.length slot.position) (lastCall? slot script)

end StagingContext

/-- The cast in the middle of a row, where `before` is the script of the rows before and `done` what
was read of the row. -/
structure Cast.Follows (scene : Scene) (before done : List Directive)
    (cast : List StagedCharacter) : Prop where
  /-- Somebody stands in a slot exactly if the row addressed it. -/
  addressed : ∀ slot : Slot, (Cast.seen? cast slot.position).isSome ↔
    ∃ directive ∈ done, directive.slot? = some slot
  /-- What is seen in a slot, or else was seen there last, is what the last call settled. -/
  settled : ∀ slot : Slot, Option.Rel scene.Settles
    (((Cast.seen? cast slot.position).map (·.1)).or
      (Cast.lastSeen? scene.earlier scene.index slot.position))
    (lastCall? slot (before ++ done))
  /-- The effects in a slot are those of the row. -/
  effects : ∀ slot : Slot,
    ((Cast.seen? cast slot.position).map (·.2)).getD [] = effectsIn slot done

namespace Cast

variable {scene : Scene} {before done : List Directive} {cast next : List StagedCharacter}

/-- A row begins with nobody on stage. -/
theorem follows_nil (hremembers : scene.Remembers before scene.earlier)
    (hindex : scene.index = scene.earlier.length) : Follows scene before [] [] := by
  constructor
  · intro slot
    simp [seen?, occupant?]
  · intro slot
    rw [hindex, List.append_nil]
    exact hremembers slot
  · intro slot
    rfl

/-- Every directive that is applied keeps the cast in step with the script. -/
theorem Follows.of_after {directive : Directive} (hfollows : Follows scene before done cast)
    (hnext : after scene cast directive = .ok next) :
    Follows scene before (done ++ [directive]) next := by
  have hlast (slot : Slot) : lastCall? slot (before ++ (done ++ [directive])) =
      (directive.callIn? slot).or (lastCall? slot (before ++ done)) := by
    rw [← List.append_assoc, lastCall?_concat]
  constructor
  · intro slot
    rcases seen?_of_after hnext slot with ⟨hother, hsame⟩ | ⟨_, _, hslot, _, _, _, hseen⟩ |
      ⟨_, _, _, hslot, _, _, _, hseen⟩
    · rw [hsame, hfollows.addressed slot]
      simp [or_and_right, exists_or, hother]
    · simp [hseen, hslot]
    · simp [hseen, hslot]
  · intro slot
    rw [hlast]
    rcases seen?_of_after hnext slot with ⟨hother, hsame⟩ |
      ⟨call, shown, _, hcall, _, hsettles, hseen⟩ | ⟨_, shown, effects, _, hcall, _, hshown, hseen⟩
    · rw [hsame, Directive.callIn?_eq_none_of_slot?_ne hother, Option.none_or]
      exact hfollows.settled slot
    · rw [hseen, hcall]
      exact .some hsettles
    · have hsettled := hfollows.settled slot
      rw [hseen, hcall, Option.none_or]
      -- Bringing a character back shows what was seen before, so the last call is still the same.
      have hshows : ((seen? cast slot.position).map (·.1)).or
          (lastSeen? scene.earlier scene.index slot.position) = some shown := by
        have hfirst := congrArg (Option.map Prod.fst) hshown
        rw [Option.map_or, Option.map_map] at hfirst
        simpa [Function.comp_def] using hfirst
      rwa [hshows] at hsettled
  · intro slot
    rw [effectsIn_concat, ← hfollows.effects slot]
    rcases seen?_of_after hnext slot with ⟨hother, hsame⟩ | ⟨_, _, _, _, hnone, _, hseen⟩ |
      ⟨effect, shown, effects, _, _, heffect, hshown, hseen⟩
    · simp [hsame, Directive.effectIn?_eq_none_of_slot?_ne hother]
    · simp [hseen, hnone]
    · rw [hseen, heffect]
      cases hbefore : seen? cast slot.position with
      | some pair =>
        rw [hbefore] at hshown
        cases hshown
        rfl
      | none =>
        rw [hbefore, Option.none_or] at hshown
        obtain ⟨_, _, hpair⟩ := Option.map_eq_some_iff.mp hshown
        cases hpair
        rfl

/-- What the directives of a row that are applied in turn leave on stage follows the script. -/
theorem follows_of_applyAll {directives : List Directive} {unit : StoryUnit}
    {reports : List StagingError} (hremembers : scene.Remembers before scene.earlier)
    (hindex : scene.index = scene.earlier.length)
    (hrun : scene.applyAll scene.opening directives = (.ok unit, reports)) :
    Follows scene before directives unit.cast := by
  refine Scene.applyAll_induction (motive := fun done next _ => Follows scene before done next.cast)
    (follows_nil hremembers hindex) ?_ hrun
  intro done middle directive after earlier later hmiddle happly
  obtain ⟨cast, hcast, rfl, _⟩ := Scene.apply_eq_ok_iff.mp happly
  exact hmiddle.of_after hcast

/-- Lighting does not lead the cast away from the script. -/
theorem Follows.lit (hfollows : Follows scene before done cast) :
    Follows scene before done (Cast.lit cast) := by
  constructor <;> intro slot <;> rw [seen?_lit]
  · exact hfollows.addressed slot
  · exact hfollows.settled slot
  · exact hfollows.effects slot

end Cast

namespace Staging

variable {context : StagingContext} {rows : List Row} {last : Staging}

/-- The unit of a row that is staged follows the script, if the units before remember it. -/
theorem follows_of_stage {staging : Staging} {row : Row} {before : List Directive}
    {unit : StoryUnit} {reports : List StagingError}
    (hremembers : context.Remembers before staging.units)
    (hstage : (staging.scene context row).stage = (.ok unit, reports)) :
    Cast.Follows (staging.scene context row) before (Script.directives row.script.toList)
      unit.cast := by
  obtain ⟨made, hrun, rfl⟩ := Scene.stage_eq_ok_iff.mp hstage
  exact (Cast.follows_of_applyAll hremembers rfl hrun).lit

/-- With the unit of a row, the units remember the script of the row too. -/
theorem remembers_concat {staging : Staging} {row : Row} {before : List Directive}
    {unit : StoryUnit} {reports : List StagingError}
    (hremembers : context.Remembers before staging.units)
    (hstage : (staging.scene context row).stage = (.ok unit, reports)) :
    context.Remembers (before ++ Script.directives row.script.toList)
      (staging.units ++ [unit]) := by
  intro slot
  have hsettled := (follows_of_stage hremembers hstage).settled slot
  rw [Cast.lastSeen?_concat]
  exact hsettled

/-- The units of a run remember the script of its rows. -/
theorem remembers_of_run (hrun : run context {} rows = .ok last) :
    context.Remembers (Story.script rows) last.units := by
  refine run_induction (motive := fun done staging =>
    context.Remembers (Story.script done) staging.units) (fun _ => .none) ?_ hrun
  intro done staging row unit next hremembers hpush
  obtain ⟨reports, hstage, rfl⟩ := push_eq_ok_iff.mp hpush
  rw [Story.script_concat]
  exact remembers_concat hremembers hstage

end Staging

namespace Story

variable {context : StagingContext} {rows : List Row} {story : Story}

theorem script_take_succ {index : Nat} {row : Row} (hrow : rows[index]? = some row) :
    script (rows.take (index + 1)) =
      script (rows.take index) ++ Script.directives row.script.toList := by
  rw [List.take_add_one, hrow]
  exact script_concat _ _

/-- In every unit of a story somebody stands in a slot exactly if the unit's row addresses the slot,
and shows the appearance that the last call into the slot settled, in this row or any before it, and
the effects in the slot of this row alone. -/
theorem cast_follows_script (hstory : ofRows context rows = .ok story) {index : Nat}
    {unit : StoryUnit} (hunit : story.units[index]? = some unit) (slot : Slot) :
    ∃ row, rows[index]? = some row ∧
      ((∃ character ∈ unit.cast, character.position = slot.position) ↔
        ∃ directive ∈ Script.directives row.script.toList, directive.slot? = some slot) ∧
      ∀ character ∈ unit.cast, character.position = slot.position →
        (∃ name face, lastCall? slot (script (rows.take (index + 1))) = some (name, face) ∧
          context.appearance? name face = some character.appearance) ∧
        character.effects = effectsIn slot (Script.directives row.script.toList) := by
  obtain ⟨row, before, reports, hrow, hrun, _, _, hstage⟩ := exists_stage_of_getElem? hstory hunit
  have hfollows := Staging.follows_of_stage (Staging.remembers_of_run hrun) hstage
  have hplaced := (Scene.wellFormed_of_stage hstage).placed
  refine ⟨row, hrow, ?_, ?_⟩
  · rw [← Cast.isSome_seen?_iff]
    exact hfollows.addressed slot
  · intro character hmem hposition
    have hseen := hplaced.seen?_eq_some hmem
    rw [hposition] at hseen
    constructor
    · have hsettled := hfollows.settled slot
      rw [hseen, ← script_take_succ hrow] at hsettled
      cases hcall : lastCall? slot (script (rows.take (index + 1))) with
      | none =>
        rw [hcall] at hsettled
        cases hsettled
      | some call =>
        rw [hcall] at hsettled
        cases hsettled with
        | some hsettles => exact ⟨call.1, call.2, rfl, hsettles⟩
    · rw [← hfollows.effects slot, hseen]
      rfl

end Story

/-- In the third unit of the story of three rows, the effect was given before the call, to a
character who was only brought back in the unit before, and the call decides the face. -/
theorem Sample.cast_follows_script_third :
    Sample.story.units[2]? = some Sample.story.units[2] ∧
    ∃ row, Sample.rows[2]? = some row ∧
      ((∃ character ∈ Sample.story.units[2].cast, character.position = Slot.position 0) ↔
        ∃ directive ∈ Script.directives row.script.toList, directive.slot? = some 0) ∧
      ∀ character ∈ Sample.story.units[2].cast, character.position = Slot.position 0 →
        (∃ name face, lastCall? 0 (Story.script (Sample.rows.take 3)) = some (name, face) ∧
          Sample.context.appearance? name face = some character.appearance) ∧
        character.effects = effectsIn 0 (Script.directives row.script.toList) :=
  ⟨rfl, Story.cast_follows_script Sample.ofRows_eq rfl 0⟩

end VisualNovel
