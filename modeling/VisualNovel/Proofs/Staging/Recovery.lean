/-
# Going on after rows that fail

A story is given up with the first row that fails, but rows may also be staged one at a time, and
then it is up to the caller to go on. The units that come of it are those of the rows that succeed:
a row that fails adds none, and nothing that it leaves behind is looked at by a later row.

It does leave something behind. Its background is registered before its script is read, and the
malformed lines of a choice are reported before the directive that fails. This module says exactly
what stays: an entry of the registry that the tables decide, and reports of the failing row itself.
-/

import VisualNovel.Proofs.Staging.Run

namespace VisualNovel

open Script

namespace Scene

/-- Whether the row of the scene is staged. -/
def succeeds (scene : Scene) : Bool := scene.stage.1.isOk

/-- Whether the animated background of the row is set up under the name. -/
def registers (scene : Scene) (name : String) : Bool := scene.live2d?.any (·.name == name)

end Scene

/-- What the tables have for the animated background of the name, if one of the scenes shows it. -/
def StagingContext.registration (context : StagingContext) (scenes : List Scene) (name : String) :
    Option Live2dConfig :=
  if scenes.any (·.registers name) then some (context.tables.live2dConfigs[name]?.getD { name })
  else none

theorem StagingContext.registration_cons {context : StagingContext} {scene : Scene}
    {scenes : List Scene} {name : String} :
    context.registration (scene :: scenes) name =
      (context.registration [scene] name).or (context.registration scenes name) := by
  unfold registration
  by_cases hscene : scene.registers name = true <;> simp [hscene]

/-- The scenes that show a background either succeed or fail. -/
theorem StagingContext.registration_filter {context : StagingContext} {scenes : List Scene}
    {name : String} (succeeds : Scene → Bool) :
    context.registration scenes name =
      (context.registration (scenes.filter succeeds) name).or
        (context.registration (scenes.filter (!succeeds ·)) name) := by
  have hany : scenes.any (·.registers name) =
      ((scenes.filter succeeds).any (·.registers name) ||
        (scenes.filter (!succeeds ·)).any (·.registers name)) := by
    rw [Bool.eq_iff_iff]
    simp only [Bool.or_eq_true, List.any_eq_true, List.mem_filter]
    constructor
    · rintro ⟨scene, hmem, hname⟩
      cases hsucceeds : succeeds scene
      · exact .inr ⟨scene, ⟨hmem, by rw [hsucceeds]; rfl⟩, hname⟩
      · exact .inl ⟨scene, ⟨hmem, hsucceeds⟩, hname⟩
    · rintro (⟨scene, ⟨hmem, _⟩, hname⟩ | ⟨scene, ⟨hmem, _⟩, hname⟩) <;>
        exact ⟨scene, hmem, hname⟩
  unfold registration
  by_cases hgood : (scenes.filter succeeds).any (·.registers name) = true
  · rw [hany, hgood, Bool.true_or, if_pos rfl, Option.some_or]
  · rw [hany, Bool.eq_false_iff.mpr hgood, Bool.false_or, if_neg Bool.false_ne_true,
      Option.none_or]

namespace Scene

variable {scene : Scene} {unit next : StoryUnit} {directives : List Directive}
  {reports : List StagingError}

/-- What a row adds to the registry: at most the entry for its own background, as the tables have
it, and only where there was none. -/
theorem getElem?_registered {registry : Live2dRegistry} {name : String} :
    (scene.registered registry)[name]? =
      registry[name]?.or (scene.registration [scene] name) := by
  have hown : scene.registration [scene] name =
      if scene.registers name then some (scene.live2dConfig name) else none := by
    simp [StagingContext.registration, live2dConfig]
  rw [hown]
  unfold registered registers
  cases scene.live2d? with
  | none => simp
  | some live2d =>
    rw [Std.ExtTreeMap.getElem?_insertIfNew]
    by_cases hname : live2d.name = name
    · subst hname
      by_cases hold : live2d.name ∈ registry <;> simp [hold]
    · simp [hname]

/-- The reports of a row are about malformed lines, and name the row. -/
def OwnReport (scene : Scene) (report : StagingError) : Prop :=
  ∃ line, report = scene.error (.malformedOption line)

/-- Every report made by a directive is about a malformed line of the row. -/
theorem ownReport_of_mem_reports {kind : UnitKind} {directive : Directive} {report : StagingError}
    (hmem : report ∈ Speech.reports scene kind directive) : scene.OwnReport report := by
  cases directive with
  | option label text =>
    change report ∈ (if kind = .choice then [] else scene.malformedChoices) at hmem
    by_cases hchoice : kind = .choice
    · rw [if_pos hchoice] at hmem
      cases hmem
    · rw [if_neg hchoice] at hmem
      obtain ⟨line, _, rfl⟩ := List.mem_map.mp hmem
      exact ⟨_, rfl⟩
  | _ => cases hmem

theorem ownReport_of_applyAll (hrun : scene.applyAll unit directives = (.ok next, reports)) :
    ∀ report ∈ reports, scene.OwnReport report := by
  refine applyAll_induction
    (motive := fun _ _ reports => ∀ report ∈ reports, scene.OwnReport report) (by simp) ?_ hrun
  intro done before directive after earlier later hearlier happly report hmem
  obtain ⟨_, _, _, rfl⟩ := apply_eq_ok_iff.mp happly
  rcases List.mem_append.mp hmem with hold | hnew
  · exact hearlier report hold
  · exact ownReport_of_mem_reports hnew

end Scene

namespace Staging

variable {context : StagingContext} {staging first second : Staging} {rows : List Row}

/-- Stages all rows, and goes on after those that fail. -/
def pushAll (context : StagingContext) (staging : Staging) : List Row → Staging
  | [] => staging
  | row :: rows => pushAll context (staging.push context row).2 rows

/-- The rows that succeed when staging goes on after those that fail. -/
def accepted (context : StagingContext) (staging : Staging) : List Row → List Row
  | [] => []
  | row :: rows =>
    match staging.push context row with
    | (.ok _, next) => row :: accepted context next rows
    | (.error _, next) => accepted context next rows

/-- The scenes of the rows when staging goes on after those that fail. -/
def scenes (context : StagingContext) (staging : Staging) : List Row → List Scene
  | [] => []
  | row :: rows => staging.scene context row :: scenes context (staging.push context row).2 rows

/-- A scene shows nothing of what was staged before but the units. -/
theorem scenes_congr (hunits : first.units = second.units) :
    scenes context first rows = scenes context second rows := by
  induction rows generalizing first second with
  | nil => rfl
  | cons row rest ih =>
    have hscene : first.scene context row = second.scene context row := by
      simp only [scene, hunits]
    have hnext : (first.push context row).2.units = (second.push context row).2.units := by
      simp only [push_eq, hunits, hscene]
    rw [scenes, scenes, hscene, ih hnext]

theorem units_push_of_error {row : Row} {error : StagingError} {next : Staging}
    (hpush : staging.push context row = (.error error, next)) : next.units = staging.units := by
  obtain ⟨_, _, rfl⟩ := push_eq_error_iff.mp hpush
  rfl

/-- The rows that succeed are staged in the same scenes when the others are left out. -/
theorem scenes_accepted :
    scenes context staging (accepted context staging rows) =
      (scenes context staging rows).filter (·.succeeds) := by
  induction rows generalizing staging with
  | nil => rfl
  | cons row rest ih =>
    cases hpush : staging.push context row with
    | mk result next =>
      have hresult : (staging.scene context row).stage.1 = result := congrArg Prod.fst hpush
      cases result with
      | ok unit =>
        have hsucceeds : (staging.scene context row).succeeds = true := by
          rw [Scene.succeeds, hresult]
          rfl
        simp only [accepted, hpush, scenes, List.filter_cons, hsucceeds, if_true, ih]
      | error error =>
        have hfails : (staging.scene context row).succeeds = false := by
          rw [Scene.succeeds, hresult]
          rfl
        simp only [accepted, hpush, scenes, List.filter_cons, hfails]
        rw [scenes_congr (units_push_of_error hpush).symm, ih]
        rfl

/-- The units are those of the scenes that succeed. -/
theorem units_pushAll :
    (pushAll context staging rows).units =
      staging.units ++ (scenes context staging rows).filterMap (·.stage.1.toOption) := by
  induction rows generalizing staging with
  | nil => simp [pushAll, scenes]
  | cons row rest ih =>
    rw [pushAll, ih, scenes, push_eq, List.filterMap_cons]
    cases (staging.scene context row).stage.1.toOption <;> simp

/-- The diagnostics are the reports of all scenes. -/
theorem diagnostics_pushAll :
    (pushAll context staging rows).diagnostics =
      staging.diagnostics ++ (scenes context staging rows).flatMap (·.stage.2) := by
  induction rows generalizing staging with
  | nil => simp [pushAll, scenes]
  | cons row rest ih =>
    rw [pushAll, ih, scenes, push_eq, List.flatMap_cons, List.append_assoc]

/-- The registry has what the tables have for the backgrounds of all scenes. -/
theorem getElem?_registry_pushAll (name : String) :
    (pushAll context staging rows).registry[name]? =
      staging.registry[name]?.or (context.registration (scenes context staging rows) name) := by
  induction rows generalizing staging with
  | nil => simp [pushAll, scenes, StagingContext.registration]
  | cons row rest ih =>
    have hrow : (staging.push context row).2.registry[name]? =
        staging.registry[name]?.or (context.registration [staging.scene context row] name) :=
      Scene.getElem?_registered
    rw [pushAll, ih, hrow, Option.or_assoc, ← StagingContext.registration_cons, scenes]

/-- Where every row succeeds there is nothing to go on after. -/
theorem run_eq_ok_of_scenes
    (hall : ∀ scene ∈ scenes context staging rows, scene.succeeds = true) :
    run context staging rows = .ok (pushAll context staging rows) := by
  induction rows generalizing staging with
  | nil => rfl
  | cons row rest ih =>
    have hfirst := hall (staging.scene context row) List.mem_cons_self
    have hrest := ih fun scene hmem => hall scene (List.mem_cons_of_mem _ hmem)
    rw [run, pushAll]
    cases hpush : staging.push context row with
    | mk result next =>
      have hresult : (staging.scene context row).stage.1 = result := congrArg Prod.fst hpush
      rw [hpush] at hrest
      cases result with
      | ok unit => exact hrest
      | error error =>
        rw [Scene.succeeds, hresult] at hfirst
        cases hfirst

/-- The units do not tell whether the rows that fail were left out. -/
theorem units_pushAll_accepted :
    (pushAll context staging (accepted context staging rows)).units =
      (pushAll context staging rows).units := by
  rw [units_pushAll, units_pushAll, scenes_accepted, List.filterMap_filter]
  congr 2
  funext scene
  cases hresult : scene.stage.1 with
  | ok unit => simp [Scene.succeeds, hresult, Except.isOk, Except.toBool]
  | error error => simp [Scene.succeeds, hresult, Except.isOk, Except.toBool, Except.toOption]

end Staging

/-- The story that is left when staging goes on after rows that fail. -/
def Story.salvaged (context : StagingContext) (rows : List Row) : Story :=
  (Staging.pushAll context {} rows).story

/-- A row that fails adds no unit. It leaves the configuration of its own background, if there was
none under its name, and the reports of its own malformed lines from before the directive that
fails. So the story that is left when staging goes on has the units of the story of the rows that
succeed, and beside what that story has in its registry and among its diagnostics only what the
scenes of the other rows account for. -/
theorem Story.units_salvaged (context : StagingContext) :
    (∀ (staging after : Staging) (row : Row) (error : StagingError),
      staging.push context row = (.error error, after) →
        after.units = staging.units ∧
        (∀ name : String, after.registry[name]? =
          staging.registry[name]?.or (context.registration [staging.scene context row] name)) ∧
        ∃ before directive rest middle reports,
          Script.directives row.script.toList = before ++ directive :: rest ∧
          (staging.scene context row).applyAll (staging.scene context row).opening before =
            (.ok middle, reports) ∧
          (staging.scene context row).apply middle directive = .error error ∧
          after.diagnostics = staging.diagnostics ++ reports ∧
          ∀ report ∈ reports, (staging.scene context row).OwnReport report) ∧
    ∀ rows : List Row,
      Story.ofRows context (Staging.accepted context {} rows) =
        .ok (Story.salvaged context (Staging.accepted context {} rows)) ∧
      (Story.salvaged context rows).units =
        (Story.salvaged context (Staging.accepted context {} rows)).units ∧
      (∀ name : String, (Story.salvaged context rows).registry[name]? =
        (Story.salvaged context (Staging.accepted context {} rows)).registry[name]?.or
          (context.registration ((Staging.scenes context {} rows).filter (!·.succeeds)) name)) ∧
      (Story.salvaged context rows).diagnostics =
        (Staging.scenes context {} rows).flatMap (·.stage.2) ∧
      (Story.salvaged context (Staging.accepted context {} rows)).diagnostics =
        ((Staging.scenes context {} rows).filter (·.succeeds)).flatMap (·.stage.2) := by
  constructor
  · intro staging after row error hpush
    obtain ⟨reports, hstage, rfl⟩ := Staging.push_eq_error_iff.mp hpush
    obtain ⟨before, directive, rest, middle, hsplit, hbefore, hfails⟩ :=
      Scene.applyAll_eq_error_iff.mp (Scene.stage_eq_error_iff.mp hstage)
    exact ⟨rfl, fun name => Scene.getElem?_registered, before, directive, rest, middle, reports,
      hsplit, hbefore, hfails, rfl, Scene.ownReport_of_applyAll hbefore⟩
  · intro rows
    have hrun : Staging.run context {} (Staging.accepted context {} rows) =
        .ok (Staging.pushAll context {} (Staging.accepted context {} rows)) := by
      apply Staging.run_eq_ok_of_scenes
      intro scene hmem
      rw [Staging.scenes_accepted] at hmem
      exact (List.mem_filter.mp hmem).2
    refine ⟨Story.ofRows_eq_ok_iff.mpr ⟨_, hrun, rfl⟩, Staging.units_pushAll_accepted.symm, ?_,
      Staging.diagnostics_pushAll, ?_⟩
    · intro name
      change (Staging.pushAll context {} rows).registry[name]? =
        (Staging.pushAll context {} (Staging.accepted context {} rows)).registry[name]?.or _
      rw [Staging.getElem?_registry_pushAll, Staging.getElem?_registry_pushAll,
        Staging.scenes_accepted, Option.or_assoc, ← StagingContext.registration_filter]
    · rw [← Staging.scenes_accepted]
      exact Staging.diagnostics_pushAll

namespace Sample

/-- A row that sets up an animated background and offers a choice with a malformed line, and then
fails, since nobody was called into the slot of its effect. -/
def spoiltRow : Row := { background := 20, script := "[s1] Yes\n#1;em;Heart" }

theorem directives_spoilt :
    directives spoiltRow.script.toList =
      [.option "1".toList " Yes".toList, .characterEffect 0 "em".toList "Heart".toList none] :=
  directives_eq_of_lines
    [("[s1] Yes".toList, .option "1".toList " Yes".toList),
      ("#1;em;Heart".toList, .characterEffect 0 "em".toList "Heart".toList none)]
    (by decide +kernel) (by decide +kernel)

/-- An error of the row when it is the first. -/
def spoilt (fault : StagingFault) : StagingError :=
  { row := 0, script := "[s1] Yes\n#1;em;Heart", fault }

/-- What the row leaves behind when it is the first. -/
def leavings : Staging :=
  { registry := (∅ : Live2dRegistry).insertIfNew "CH0184_home" { name := "CH0184_home" }
    diagnostics := [spoilt (.malformedOption "#1;em;Heart")] }

theorem push_spoilt :
    ({} : Staging).push context spoiltRow = (.error (spoilt (.emptySlot 1)), leavings) := by
  simp only [Staging.push, Scene.stage, Staging.scene, directives_spoilt]
  rfl

theorem accepted_spoilt : Staging.accepted context {} (spoiltRow :: rows) = rows := by
  simp only [Staging.accepted, push_spoilt]
  simp only [rows, Staging.accepted, Staging.push, Scene.stage, Staging.scene, directives_first,
    directives_second, directives_third]
  rfl

/-- When staging goes on after the failing row, the units are those of the story of three rows, and
the registry has the entry that both the failing row and the second of the three account for. -/
theorem units_salvaged_spoilt :
    ({} : Staging).push context spoiltRow = (.error (spoilt (.emptySlot 1)), leavings) ∧
      leavings.units = [] ∧
      (Story.salvaged context (spoiltRow :: rows)).units = story.units ∧
      (Story.salvaged context (spoiltRow :: rows)).registry["CH0184_home"]? =
        some { name := "CH0184_home" } := by
  obtain ⟨hfails, hrows⟩ := Story.units_salvaged context
  obtain ⟨hstory, hunits, hregistry, _⟩ := hrows (spoiltRow :: rows)
  rw [accepted_spoilt] at hstory hunits hregistry
  have hsame : Story.salvaged context rows = story :=
    Except.ok.inj (hstory.symm.trans ofRows_eq)
  refine ⟨push_spoilt, (hfails _ _ _ _ push_spoilt).1, ?_, ?_⟩
  · rw [hunits, hsame]
  · have hentry : story.registry["CH0184_home"]? = some { name := "CH0184_home" } := by
      rw [story, Std.ExtTreeMap.getElem?_insertIfNew]
      simp
    rw [hregistry, hsame, hentry]
    rfl

/-- A row that fails may leave something behind, so that going on after it is not the same as
leaving it out. -/
theorem push_spoilt_leaves_traces :
    (¬ ∀ (context : StagingContext) (rows : List Row) (row : Row) (error : StagingError)
        (after : Staging),
        (Staging.pushAll context {} rows).push context row = (.error error, after) →
          after = Staging.pushAll context {} rows) ∧
      ¬ ∀ (context : StagingContext) (rows : List Row),
        Story.salvaged context rows =
          Story.salvaged context (Staging.accepted context {} rows) := by
  constructor
  · intro hatomic
    have hsame := hatomic context [] spoiltRow _ _ push_spoilt
    have hdiagnostics := congrArg Staging.diagnostics hsame
    cases hdiagnostics
  · intro hatomic
    have hnone : Staging.accepted context {} [spoiltRow] = [] := by
      simp only [Staging.accepted, push_spoilt]
    have hsame := hatomic context [spoiltRow]
    rw [hnone] at hsame
    have hdiagnostics := congrArg Story.diagnostics hsame
    simp only [Story.salvaged, Staging.pushAll, push_spoilt, Staging.story] at hdiagnostics
    cases hdiagnostics

end Sample

end VisualNovel
