/-
# Runs of directives and runs of rows

A row is staged by applying its directives one after the other, and a story by staging its rows one
after the other. Both runs end at the first failure. This module states the two rules by which
everything about a run is proved: what holds at the start and is kept by every step that succeeds
holds at the end of a run that succeeds, and a run that fails splits into a run that succeeds and
the step that fails after it.

Nothing here says what a step does. That is the business of the modules that use these rules, but
for one thing: a script leaves alone what the other columns of its row decide.
-/

import VisualNovel.Proofs.Script.Lines
import VisualNovel.Proofs.Staging.Calls

namespace VisualNovel

open Script

namespace Scene

variable {scene : Scene} {unit next : StoryUnit} {directives : List Directive}
  {reports : List StagingError} {error : StagingError}

/-- A directive is applied exactly if the cast it leaves is known. -/
theorem apply_eq_ok_iff {directive : Directive} :
    scene.apply unit directive = .ok (next, reports) ↔
      ∃ cast, Cast.after scene unit.cast directive = .ok cast ∧
        next = scene.applied unit cast directive ∧
        reports = Speech.reports scene unit.kind directive := by
  unfold Scene.apply
  cases hcast : Cast.after scene unit.cast directive with
  | error fault =>
    constructor
    · intro happly
      cases happly
    · rintro ⟨cast, hok, _⟩
      cases hok
  | ok cast =>
    constructor
    · intro happly
      cases happly
      exact ⟨cast, rfl, rfl, rfl⟩
    · rintro ⟨_, hok, rfl, rfl⟩
      cases hok
      rfl

/-- A directive fails exactly if the change of the cast does, with the same error. -/
theorem apply_eq_error_iff {directive : Directive} :
    scene.apply unit directive = .error error ↔
      Cast.after scene unit.cast directive = .error error := by
  unfold Scene.apply
  cases hcast : Cast.after scene unit.cast directive with
  | error fault =>
    constructor <;> intro hfault <;> cases hfault <;> rfl
  | ok cast =>
    constructor <;> intro hfault <;> cases hfault

/-- A run over two lists is the run over the first, and over the second where the first succeeds. -/
theorem applyAll_append (first second : List Directive) :
    scene.applyAll unit (first ++ second) =
      match scene.applyAll unit first with
      | (.error error, reports) => (.error error, reports)
      | (.ok next, reports) =>
        ((scene.applyAll next second).1, reports ++ (scene.applyAll next second).2) := by
  induction first generalizing unit with
  | nil => rfl
  | cons directive rest ih =>
    simp only [List.cons_append, applyAll]
    cases scene.apply unit directive with
    | error fault => rfl
    | ok pair =>
      simp only [ih]
      cases scene.applyAll pair.1 rest with
      | mk result later =>
        cases result with
        | error fault => rfl
        | ok last => simp only [List.append_assoc]

/-- A run that succeeds begins with a directive that is applied and goes on from there. -/
theorem applyAll_cons_eq_ok_iff {directive : Directive} {rest : List Directive} :
    scene.applyAll unit (directive :: rest) = (.ok next, reports) ↔
      ∃ middle earlier later, scene.apply unit directive = .ok (middle, earlier) ∧
        scene.applyAll middle rest = (.ok next, later) ∧ reports = earlier ++ later := by
  rw [applyAll]
  cases scene.apply unit directive with
  | error fault => simp
  | ok pair =>
    cases hrest : scene.applyAll pair.1 rest with
    | mk result later =>
      simp only [hrest, Except.ok.injEq, Prod.mk.injEq]
      constructor
      · rintro ⟨rfl, rfl⟩
        exact ⟨pair.1, pair.2, later, rfl, hrest, rfl⟩
      · rintro ⟨middle, earlier, last, rfl, hlast, rfl⟩
        cases hrest.symm.trans hlast
        exact ⟨rfl, rfl⟩

/-- A run over two lists succeeds exactly if the runs over both do, the second from where the first
ends. -/
theorem applyAll_append_eq_ok_iff {first second : List Directive} :
    scene.applyAll unit (first ++ second) = (.ok next, reports) ↔
      ∃ middle earlier later, scene.applyAll unit first = (.ok middle, earlier) ∧
        scene.applyAll middle second = (.ok next, later) ∧ reports = earlier ++ later := by
  rw [applyAll_append]
  cases hfirst : scene.applyAll unit first with
  | mk result before =>
    cases result with
    | error fault => simp
    | ok middle =>
      simp only [Prod.mk.injEq, Except.ok.injEq]
      constructor
      · rintro ⟨hnext, rfl⟩
        exact ⟨middle, before, _, ⟨rfl, rfl⟩, Prod.ext hnext rfl, rfl⟩
      · rintro ⟨_, _, later, ⟨rfl, rfl⟩, hsecond, rfl⟩
        rw [hsecond]
        exact ⟨rfl, rfl⟩

/-- What holds before the first directive, and is kept by every directive that is applied, holds
after the last. -/
theorem applyAll_induction {motive : List Directive → StoryUnit → List StagingError → Prop}
    (hstart : motive [] unit [])
    (hstep : ∀ done before directive after earlier later, motive done before earlier →
      scene.apply before directive = .ok (after, later) →
      motive (done ++ [directive]) after (earlier ++ later))
    (hrun : scene.applyAll unit directives = (.ok next, reports)) :
    motive directives next reports := by
  suffices hfrom : ∀ done before earlier later, motive done before earlier →
      scene.applyAll before directives = (.ok next, later) →
      motive (done ++ directives) next (earlier ++ later) from hfrom [] unit [] reports hstart hrun
  clear hrun hstart
  induction directives with
  | nil =>
    intro done before earlier later hbefore hrun
    cases hrun
    simpa using hbefore
  | cons directive rest ih =>
    intro done before earlier later hbefore hrun
    rw [applyAll] at hrun
    cases happly : scene.apply before directive with
    | error fault =>
      rw [happly] at hrun
      cases hrun
    | ok pair =>
      rw [happly] at hrun
      have hafter := hstep done before directive pair.1 earlier pair.2 hbefore happly
      cases hrest : scene.applyAll pair.1 rest with
      | mk result last =>
        simp only [hrest] at hrun
        cases hrun
        simpa using ih (done ++ [directive]) pair.1 (earlier ++ pair.2) last hafter hrest

/-- A run over directives fails exactly if it reaches a directive that fails; its reports are those
made before. -/
theorem applyAll_eq_error_iff :
    scene.applyAll unit directives = (.error error, reports) ↔
      ∃ before directive after middle, directives = before ++ directive :: after ∧
        scene.applyAll unit before = (.ok middle, reports) ∧
        scene.apply middle directive = .error error := by
  constructor
  · intro hrun
    induction directives generalizing unit reports with
    | nil => cases hrun
    | cons directive rest ih =>
      rw [applyAll] at hrun
      cases happly : scene.apply unit directive with
      | error fault =>
        rw [happly] at hrun
        cases hrun
        exact ⟨[], directive, rest, unit, rfl, rfl, happly⟩
      | ok pair =>
        rw [happly] at hrun
        cases hrest : scene.applyAll pair.1 rest with
        | mk result later =>
          simp only [hrest] at hrun
          cases hrun
          obtain ⟨before, failing, after, middle, rfl, hbefore, hfails⟩ := ih hrest
          refine ⟨directive :: before, failing, after, middle, rfl, ?_, hfails⟩
          simp only [applyAll, happly, hbefore]
  · rintro ⟨before, directive, after, middle, rfl, hbefore, hfails⟩
    rw [applyAll_append, hbefore]
    simp [applyAll, hfails]

theorem stage_eq (scene : Scene) :
    scene.stage =
      ((scene.applyAll scene.opening (Script.directives scene.row.script.toList)).1.map
          fun unit => { unit with cast := Cast.lit unit.cast },
        (scene.applyAll scene.opening (Script.directives scene.row.script.toList)).2) := rfl

/-- A row is staged exactly if its directives are applied; at last somebody is lit. -/
theorem stage_eq_ok_iff :
    scene.stage = (.ok unit, reports) ↔
      ∃ last, scene.applyAll scene.opening (Script.directives scene.row.script.toList) =
          (.ok last, reports) ∧ unit = { last with cast := Cast.lit last.cast } := by
  rw [stage_eq]
  cases hrun : scene.applyAll scene.opening (Script.directives scene.row.script.toList) with
  | mk result later =>
    cases result with
    | error fault => simp [Except.map]
    | ok last =>
      simp only [Except.map, Prod.mk.injEq, Except.ok.injEq]
      constructor
      · rintro ⟨rfl, rfl⟩
        exact ⟨last, ⟨rfl, rfl⟩, rfl⟩
      · rintro ⟨_, ⟨rfl, rfl⟩, rfl⟩
        exact ⟨rfl, rfl⟩

theorem stage_eq_error_iff :
    scene.stage = (.error error, reports) ↔
      scene.applyAll scene.opening (Script.directives scene.row.script.toList) =
        (.error error, reports) := by
  rw [stage_eq]
  cases hrun : scene.applyAll scene.opening (Script.directives scene.row.script.toList) with
  | mk result later => cases result <;> simp [Except.map]

end Scene

/-- The unit as far as the columns of its row beside the script decide it. -/
def StoryUnit.columns (unit : StoryUnit) : StoryUnit :=
  { unit with
    kind := .text
    cast := []
    text := {}
    effect := { unit.effect with screen := [] }
    hidden := none
    showsMenu := false
    video := none }

/-- No script changes what the other columns decide. -/
theorem Scene.columns_of_stage {scene : Scene} {unit : StoryUnit} {reports : List StagingError}
    (hstage : scene.stage = (.ok unit, reports)) : unit.columns = scene.opening.columns := by
  obtain ⟨last, hrun, rfl⟩ := Scene.stage_eq_ok_iff.mp hstage
  change last.columns = scene.opening.columns
  refine Scene.applyAll_induction (motive := fun _ next _ => next.columns = scene.opening.columns)
    rfl ?_ hrun
  intro done before directive after earlier later hbefore happly
  obtain ⟨cast, _, rfl, _⟩ := Scene.apply_eq_ok_iff.mp happly
  exact hbefore

namespace Staging

variable {context : StagingContext} {start last : Staging} {rows : List Row} {error : StagingError}

theorem push_eq (staging : Staging) (context : StagingContext) (row : Row) :
    staging.push context row =
      ((staging.scene context row).stage.1,
        { units := staging.units ++ (staging.scene context row).stage.1.toOption.toList
          registry := (staging.scene context row).registered staging.registry
          diagnostics := staging.diagnostics ++ (staging.scene context row).stage.2 }) := rfl

/-- A row that is staged adds its unit. -/
theorem push_eq_ok_iff {staging next : Staging} {row : Row} {unit : StoryUnit} :
    staging.push context row = (.ok unit, next) ↔
      ∃ reports, (staging.scene context row).stage = (.ok unit, reports) ∧
        next =
          { units := staging.units ++ [unit]
            registry := (staging.scene context row).registered staging.registry
            diagnostics := staging.diagnostics ++ reports } := by
  rw [push_eq]
  cases (staging.scene context row).stage with
  | mk result reports =>
    constructor
    · rintro ⟨rfl, rfl⟩
      exact ⟨reports, rfl, rfl⟩
    · rintro ⟨_, ⟨rfl, rfl⟩, rfl⟩
      rfl

/-- A row that fails adds no unit, but the other two parts may have grown by then. -/
theorem push_eq_error_iff {staging next : Staging} {row : Row} :
    staging.push context row = (.error error, next) ↔
      ∃ reports, (staging.scene context row).stage = (.error error, reports) ∧
        next =
          { units := staging.units
            registry := (staging.scene context row).registered staging.registry
            diagnostics := staging.diagnostics ++ reports } := by
  rw [push_eq]
  cases (staging.scene context row).stage with
  | mk result reports =>
    constructor
    · rintro ⟨rfl, rfl⟩
      exact ⟨reports, rfl, by simp [Except.toOption]⟩
    · rintro ⟨_, ⟨rfl, rfl⟩, rfl⟩
      simp [Except.toOption]

/-- A run over two lists of rows is the run over the first, and over the second from there. -/
theorem run_append (first second : List Row) :
    run context start (first ++ second) =
      (run context start first).bind fun middle => run context middle second := by
  induction first generalizing start with
  | nil => rfl
  | cons row rest ih =>
    simp only [List.cons_append, run]
    cases start.push context row with
    | mk result next =>
      cases result with
      | error fault => rfl
      | ok unit => exact ih

/-- What holds before the first row, and is kept by every row that is staged, holds after the
last. -/
theorem run_induction {motive : List Row → Staging → Prop} (hstart : motive [] start)
    (hstep : ∀ done staging row unit next, motive done staging →
      staging.push context row = (.ok unit, next) → motive (done ++ [row]) next)
    (hrun : run context start rows = .ok last) : motive rows last := by
  suffices hfrom : ∀ done staging, motive done staging → run context staging rows = .ok last →
      motive (done ++ rows) last from hfrom [] start hstart hrun
  clear hrun hstart
  induction rows with
  | nil =>
    intro done staging hstaging hrun
    cases hrun
    simpa using hstaging
  | cons row rest ih =>
    intro done staging hstaging hrun
    rw [run] at hrun
    cases hpush : staging.push context row with
    | mk result next =>
      rw [hpush] at hrun
      cases result with
      | error fault => cases hrun
      | ok unit =>
        have hnext := hstep done staging row unit next hstaging hpush
        simpa using ih (done ++ [row]) next hnext hrun

/-- A run that succeeds goes on over one more row that is staged. -/
theorem run_concat {row : Row} {unit : StoryUnit} {next : Staging}
    (hrun : run context start rows = .ok last) (hpush : last.push context row = (.ok unit, next)) :
    run context start (rows ++ [row]) = .ok next := by
  rw [run_append, hrun]
  simp only [Except.bind, run, hpush]

/-- A run leaves one unit a row. -/
theorem length_units_of_run (hrun : run context {} rows = .ok last) :
    last.units.length = rows.length := by
  refine run_induction (motive := fun done staging => staging.units.length = done.length)
    rfl ?_ hrun
  intro done staging row unit next hlength hpush
  obtain ⟨reports, _, rfl⟩ := push_eq_ok_iff.mp hpush
  simp [hlength]

/-- A run over rows fails exactly if it reaches a row that fails. -/
theorem run_eq_error_iff :
    run context start rows = .error error ↔
      ∃ done row later middle, rows = done ++ row :: later ∧
        run context start done = .ok middle ∧ (middle.push context row).1 = .error error := by
  constructor
  · intro hrun
    induction rows generalizing start with
    | nil => cases hrun
    | cons row rest ih =>
      rw [run] at hrun
      cases hpush : start.push context row with
      | mk result next =>
        rw [hpush] at hrun
        cases result with
        | error fault =>
          cases hrun
          exact ⟨[], row, rest, start, rfl, rfl, by rw [hpush]⟩
        | ok unit =>
          obtain ⟨done, failing, later, middle, rfl, hdone, hfails⟩ := ih hrun
          refine ⟨row :: done, failing, later, middle, rfl, ?_, hfails⟩
          rw [run, hpush]
          exact hdone
  · rintro ⟨done, row, later, middle, rfl, hdone, hfails⟩
    rw [run_append, hdone]
    simp only [Except.bind, run]
    cases hpush : middle.push context row with
    | mk result next =>
      rw [hpush] at hfails
      cases hfails
      rfl

end Staging

namespace Story

variable {context : StagingContext} {rows : List Row}

theorem ofRows_eq_ok_iff {story : Story} :
    ofRows context rows = .ok story ↔
      ∃ last, Staging.run context {} rows = .ok last ∧ story = last.story := by
  unfold ofRows
  cases Staging.run context {} rows with
  | error fault => simp [Except.map]
  | ok last => simp [Except.map, eq_comm]

theorem ofRows_eq_error_iff_run {error : StagingError} :
    ofRows context rows = .error error ↔ Staging.run context {} rows = .error error := by
  unfold ofRows
  cases Staging.run context {} rows <;> simp [Except.map]

/-- Every unit of a story is what its row makes after the units before it. -/
theorem exists_stage_of_getElem? {story : Story} {index : Nat} {unit : StoryUnit}
    (hstory : ofRows context rows = .ok story) (hunit : story.units[index]? = some unit) :
    ∃ row before reports, rows[index]? = some row ∧
      Staging.run context {} (rows.take index) = .ok before ∧
      before.units = story.units.take index ∧
      before.units.length = index ∧
      (before.scene context row).stage = (.ok unit, reports) := by
  obtain ⟨last, hrun, rfl⟩ := ofRows_eq_ok_iff.mp hstory
  have hevery := Staging.run_induction
    (motive := fun done staging =>
      Staging.run context {} done = .ok staging ∧ staging.units.length = done.length ∧
        ∀ index unit, staging.units[index]? = some unit →
          ∃ row before reports, done[index]? = some row ∧
            Staging.run context {} (done.take index) = .ok before ∧
            before.units = staging.units.take index ∧
            before.units.length = index ∧
            (before.scene context row).stage = (.ok unit, reports))
    ⟨rfl, rfl, by simp⟩ ?_ hrun
  · exact hevery.2.2 index unit hunit
  · rintro done staging row made next ⟨hdone, hlength, hunits⟩ hpush
    refine ⟨Staging.run_concat hdone hpush, ?_, ?_⟩
    · obtain ⟨reports, _, rfl⟩ := Staging.push_eq_ok_iff.mp hpush
      simp [hlength]
    · obtain ⟨reports, hstage, rfl⟩ := Staging.push_eq_ok_iff.mp hpush
      intro index unit hunit
      rcases Nat.lt_or_ge index done.length with hold | hnew
      · rw [List.getElem?_append_left (by omega)] at hunit
        obtain ⟨own, before, earlier, hrow, hbefore, htake, hcount, hown⟩ := hunits index unit hunit
        refine ⟨own, before, earlier, ?_, ?_, ?_, hcount, hown⟩
        · rw [List.getElem?_append_left hold, hrow]
        · rw [List.take_append_of_le_length (by omega), hbefore]
        · rw [htake, List.take_append_of_le_length (by omega)]
      · have hindex : index = done.length := by
          have hlt := (List.getElem?_eq_some_iff.mp hunit).1
          simp only [List.length_append, List.length_singleton] at hlt
          omega
        subst hindex
        rw [← hlength, List.getElem?_concat_length] at hunit
        cases hunit
        refine ⟨row, staging, reports, ?_, ?_, ?_, hlength, hstage⟩
        · exact List.getElem?_concat_length
        · rw [List.take_left, hdone]
        · rw [← hlength, List.take_left]

/-- Every row of a story makes its unit after the units of the rows before it. -/
theorem exists_stage_of_row {story : Story} {index : Nat} {row : Row}
    (hstory : ofRows context rows = .ok story) (hrow : rows[index]? = some row) :
    ∃ unit before reports, story.units[index]? = some unit ∧
      Staging.run context {} (rows.take index) = .ok before ∧
      (before.scene context row).stage = (.ok unit, reports) := by
  have hindex := (List.getElem?_eq_some_iff.mp hrow).1
  obtain ⟨last, hrun, hlast⟩ := ofRows_eq_ok_iff.mp hstory
  have hlength : story.units.length = rows.length := by
    rw [hlast]
    exact Staging.length_units_of_run hrun
  obtain ⟨unit, hunit⟩ : ∃ unit, story.units[index]? = some unit :=
    ⟨_, List.getElem?_eq_getElem (hlength ▸ hindex)⟩
  obtain ⟨own, before, reports, hown, hbefore, _, _, hstage⟩ :=
    exists_stage_of_getElem? hstory hunit
  rw [hrow] at hown
  cases hown
  exact ⟨unit, before, reports, hunit, hbefore, hstage⟩

end Story

namespace Sample

/-- The tables of a story with two characters, a still and an animated background. -/
def tables : ReferenceTables :=
  ReferenceTables.empty
    |>.insertCharacter { id := 1001, nameKr := "Yuuka", prefab := "CharacterSpine_yuuka" }
    |>.insertCharacter { id := 1002, nameKr := "Noa", shape := "Signal", prefab := "noa_spr" }
    |>.insertBackground { id := 10, file := "BG_Classroom" }
    |>.insertBackground { id := 20, file := "CH0184_home", kind := .spine, animation := "Idle_01" }
    |>.insertTransition { id := 7, into := "bgoverlap", intoDuration := 500 }

/-- The tables, for a player with the usual settings. -/
def context : StagingContext := { tables }

/-- The rows at which the theorems on runs are shown to apply: two characters are called, and one of
them is brought back twice, the second time from a unit that had only brought the character back. -/
def rows : List Row :=
  [{ group := 1, background := 10, transition := 7, script := "1;Yuuka;02\n2;Noa;05\n#1;em;Sweat" },
   { group := 1, branch := 2, background := 20, script := "#1;a;hop" },
   { group := 2, script := "#1;fx;shot;async\n1;Yuuka;03" }]

theorem directives_first :
    directives "1;Yuuka;02\n2;Noa;05\n#1;em;Sweat".toList =
      [.character 0 "Yuuka".toList "02".toList none, .character 1 "Noa".toList "05".toList none,
       .characterEffect 0 "em".toList "Sweat".toList none] :=
  directives_eq_of_lines
    [("1;Yuuka;02".toList, .character 0 "Yuuka".toList "02".toList none),
      ("2;Noa;05".toList, .character 1 "Noa".toList "05".toList none),
      ("#1;em;Sweat".toList, .characterEffect 0 "em".toList "Sweat".toList none)]
    (by decide +kernel) (by decide +kernel)

theorem directives_second :
    directives "#1;a;hop".toList = [.characterEffect 0 "a".toList "hop".toList none] :=
  directives_eq_of_lines
    [("#1;a;hop".toList, .characterEffect 0 "a".toList "hop".toList none)]
    (by decide +kernel) (by decide +kernel)

theorem directives_third :
    directives "#1;fx;shot;async\n1;Yuuka;03".toList =
      [.characterEffect 0 "fx".toList "shot".toList (some "async".toList),
       .character 0 "Yuuka".toList "03".toList none] :=
  directives_eq_of_lines
    [("#1;fx;shot;async".toList,
        .characterEffect 0 "fx".toList "shot".toList (some "async".toList)),
      ("1;Yuuka;03".toList, .character 0 "Yuuka".toList "03".toList none)]
    (by decide +kernel) (by decide +kernel)

/-- The first character as the units show it. -/
def yuuka (face : String) (effects : List CharacterEffect) : StagedCharacter :=
  { position := 1, id := 1001, face, highlighted := true, signal := false
    model := "/spine/yuuka_spr/yuuka_spr.skel", effects }

/-- The second character as the first unit shows it. -/
def noa : StagedCharacter :=
  { position := 2, id := 1002, face := "05", highlighted := true, signal := true
    model := "/spine/noa_spr/noa_spr.skel" }

/-- The story that the rows make. -/
def story : Story where
  units :=
    [{ group := 1, kind := .effectOnly
       cast := [yuuka "02" [⟨.emotion, "Sweat", false⟩], noa]
       background := some { url := "/bg/BG_Classroom.jpg", overlap := some 500 } },
     { group := 1, branch := 2, kind := .effectOnly
       cast := [yuuka "02" [⟨.action, "hop", false⟩]]
       live2d := some
        { name := "CH0184_home", url := "/spine/CH0184_home/CH0184_home.skel"
          animation := "Idle_01" } },
     { group := 2, kind := .effectOnly, cast := [yuuka "03" [⟨.special, "shot", true⟩]] }]
  registry := (∅ : Live2dRegistry).insertIfNew "CH0184_home" { name := "CH0184_home" }

/-- The scene of the second row. -/
def secondScene : Scene :=
  { context with row := rows[1], index := 1, earlier := story.units.take 1 }

/-- The rows make the story. -/
theorem ofRows_eq : Story.ofRows context rows = .ok story := by
  simp only [Story.ofRows, rows, Staging.run, Staging.push, Scene.stage, Staging.scene,
    directives_first, directives_second, directives_third]
  rfl

end Sample
end VisualNovel
