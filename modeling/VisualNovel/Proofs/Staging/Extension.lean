/-
# Telling a story further

Rows are staged in order, and what was staged is never revisited. So a story is told further by
staging more rows behind it: the units and the reports that were there stay where they are and what
they are, and so do the entries of the registry. A story that fails does so before its further rows
are looked at.

The reports of a story are in the order of the rows as well, and each of them is about a line of the
row that it names.
-/

import VisualNovel.Proofs.Staging.Recovery

namespace VisualNovel

open Script

namespace Story

/-- The longer story begins with the other one: nothing in it is changed or taken away. -/
structure Begins (start longer : Story) : Prop where
  units : start.units <+: longer.units
  diagnostics : start.diagnostics <+: longer.diagnostics
  registry : ∀ (name : String) (config : Live2dConfig),
    start.registry[name]? = some config → longer.registry[name]? = some config

theorem Begins.refl (story : Story) : story.Begins story :=
  ⟨List.prefix_refl _, List.prefix_refl _, fun _ _ hentry => hentry⟩

theorem Begins.trans {start middle longer : Story} (hfirst : start.Begins middle)
    (hsecond : middle.Begins longer) : start.Begins longer where
  units := hfirst.units.trans hsecond.units
  diagnostics := hfirst.diagnostics.trans hsecond.diagnostics
  registry name config hentry := hsecond.registry name config (hfirst.registry name config hentry)

/-- The report is about a malformed line, and names and quotes one of the rows. -/
def ReportsOn (rows : List Row) (report : StagingError) : Prop :=
  ∃ row line, rows[report.row]? = some row ∧ report.script = row.script ∧
    report.fault = .malformedOption line

/-- The reports are about the rows, in the order of the rows. -/
structure ReportedInOrder (rows : List Row) (reports : List StagingError) : Prop where
  reportsOn : ∀ report ∈ reports, ReportsOn rows report
  ordered : (reports.map (·.row)).Pairwise (· ≤ ·)

variable {rows : List Row} {report : StagingError}

theorem ReportsOn.row_lt (hreports : ReportsOn rows report) : report.row < rows.length := by
  obtain ⟨row, _, hrow, _⟩ := hreports
  exact (List.getElem?_eq_some_iff.mp hrow).1

/-- With more rows behind them, the rows keep their numbers. -/
theorem ReportsOn.append (hreports : ReportsOn rows report) (later : List Row) :
    ReportsOn (rows ++ later) report := by
  obtain ⟨row, line, hrow, hscript, hfault⟩ := hreports
  refine ⟨row, line, ?_, hscript, hfault⟩
  rw [List.getElem?_append_left (List.getElem?_eq_some_iff.mp hrow).1, hrow]

/-- The reports of one more row come behind those of the rows before it. -/
theorem ReportedInOrder.concat {reports later : List StagingError} {row : Row}
    (hreports : ReportedInOrder rows reports)
    (hlater : ∀ report ∈ later, report.row = rows.length ∧ ReportsOn (rows ++ [row]) report) :
    ReportedInOrder (rows ++ [row]) (reports ++ later) := by
  constructor
  · intro report hmem
    rcases List.mem_append.mp hmem with hold | hnew
    · exact (hreports.reportsOn report hold).append [row]
    · exact (hlater report hnew).2
  · rw [List.map_append, List.pairwise_append]
    refine ⟨hreports.ordered, ?_, ?_⟩
    · rw [List.pairwise_map]
      refine List.pairwise_of_forall_mem_list fun first hfirst second hsecond => ?_
      exact Nat.le_of_eq ((hlater first hfirst).1.trans (hlater second hsecond).1.symm)
    · intro earlier hearlier number hnumber
      obtain ⟨first, hfirst, rfl⟩ := List.mem_map.mp hearlier
      obtain ⟨second, hsecond, rfl⟩ := List.mem_map.mp hnumber
      rw [(hlater second hsecond).1]
      exact Nat.le_of_lt (hreports.reportsOn first hfirst).row_lt

end Story

namespace Staging

variable {context : StagingContext} {start staging next last : Staging} {rows : List Row}

/-- A row that is staged adds to what there is. -/
theorem begins_of_push {row : Row} {unit : StoryUnit}
    (hpush : staging.push context row = (.ok unit, next)) : staging.story.Begins next.story := by
  obtain ⟨reports, _, rfl⟩ := push_eq_ok_iff.mp hpush
  constructor
  · exact List.prefix_append _ _
  · exact List.prefix_append _ _
  · intro name config hentry
    change staging.registry[name]? = some config at hentry
    change ((staging.scene context row).registered staging.registry)[name]? = some config
    rw [Scene.getElem?_registered, hentry, Option.some_or]

/-- By induction on the rows, so do all of them. -/
theorem begins_of_run (hrun : run context start rows = .ok last) :
    start.story.Begins last.story := by
  refine run_induction (motive := fun _ staging => start.story.Begins staging.story)
    (Story.Begins.refl _) ?_ hrun
  intro done staging row unit next hbefore hpush
  exact hbefore.trans (begins_of_push hpush)

/-- The reports of a row that is staged are about the row and name it by the number of units before
it. -/
theorem reportsOn_of_stage {row : Row} {unit : StoryUnit} {reports : List StagingError}
    (hstage : (staging.scene context row).stage = (.ok unit, reports))
    (hlength : staging.units.length = rows.length) :
    ∀ report ∈ reports,
      report.row = rows.length ∧ Story.ReportsOn (rows ++ [row]) report := by
  intro report hmem
  obtain ⟨_, hrun, _⟩ := Scene.stage_eq_ok_iff.mp hstage
  obtain ⟨line, rfl⟩ := Scene.ownReport_of_applyAll hrun report hmem
  refine ⟨hlength, row, line, ?_, rfl, rfl⟩
  change (rows ++ [row])[staging.units.length]? = some row
  rw [hlength, List.getElem?_concat_length]

/-- A run leaves its reports in the order of the rows. -/
theorem reportedInOrder_of_run (hrun : run context {} rows = .ok last) :
    Story.ReportedInOrder rows last.diagnostics := by
  -- A report names its row by the number of units so far, so the induction counts them too.
  suffices hcounted : last.units.length = rows.length ∧
      Story.ReportedInOrder rows last.diagnostics from hcounted.2
  refine run_induction
    (motive := fun done staging => staging.units.length = done.length ∧
      Story.ReportedInOrder done staging.diagnostics) ⟨rfl, by simp, .nil⟩ ?_ hrun
  rintro done staging row unit next ⟨hlength, hreports⟩ hpush
  obtain ⟨reports, hstage, rfl⟩ := push_eq_ok_iff.mp hpush
  exact ⟨by simp [hlength], hreports.concat (reportsOn_of_stage hstage hlength)⟩

end Staging

/-- Rows behind a story that fails change nothing about the failure. A story that succeeds begins
with the story of its first rows, whichever these are, and its reports are about malformed lines of
its rows, in their order. -/
theorem Story.begins_of_ofRows_append (context : StagingContext) (rows later : List Row) :
    (∀ error, Story.ofRows context rows = .error error →
      Story.ofRows context (rows ++ later) = .error error) ∧
    (∀ longer, Story.ofRows context (rows ++ later) = .ok longer →
      ∃ start, Story.ofRows context rows = .ok start ∧ start.Begins longer) ∧
    ∀ story, Story.ofRows context rows = .ok story →
      Story.ReportedInOrder rows story.diagnostics := by
  refine ⟨fun error hfails => ?_, fun longer hlonger => ?_, fun story hstory => ?_⟩
  · rw [Story.ofRows_eq_error_iff_run] at hfails ⊢
    rw [Staging.run_append, hfails]
    rfl
  · obtain ⟨last, hrun, rfl⟩ := Story.ofRows_eq_ok_iff.mp hlonger
    rw [Staging.run_append] at hrun
    cases hstart : Staging.run context {} rows with
    | error error =>
      rw [hstart] at hrun
      cases hrun
    | ok start =>
      rw [hstart] at hrun
      exact ⟨start.story, Story.ofRows_eq_ok_iff.mpr ⟨start, hstart, rfl⟩,
        Staging.begins_of_run hrun⟩
  · obtain ⟨last, hrun, rfl⟩ := Story.ofRows_eq_ok_iff.mp hstory
    exact Staging.reportedInOrder_of_run hrun

namespace Sample

/-- A choice in front of an animated background. One line of its text is no answer. -/
def poll : Row :=
  { background := 20
    script := "[s1] 네"
    texts := { jp := some "[s1] Yes\nNo", cn := none, tw := none, en := none, th := none } }

theorem directives_poll :
    directives "[s1] 네".toList = [.option "1".toList " 네".toList] :=
  directives_eq_of_lines [("[s1] 네".toList, .option "1".toList " 네".toList)]
    (by decide +kernel) (by decide +kernel)

/-- The report of the line that is no answer. -/
def pollReport : StagingError := { row := 0, script := "[s1] 네", fault := .malformedOption "No" }

/-- The choice alone is a story, and the three rows behind it tell the story further. A row that
fails behind the choice is not looked past. -/
theorem begins_of_ofRows_append_poll :
    (Story.ofRows context [poll, spoiltRow] =
        .error { row := 1, script := "[s1] Yes\n#1;em;Heart", fault := .emptySlot 1 } ∧
      Story.ofRows context ([poll, spoiltRow] ++ rows) =
        .error { row := 1, script := "[s1] Yes\n#1;em;Heart", fault := .emptySlot 1 }) ∧
    ∃ start longer, Story.ofRows context [poll] = .ok start ∧
      Story.ofRows context ([poll] ++ rows) = .ok longer ∧ start.Begins longer ∧
      start.diagnostics = [pollReport] ∧ longer.units.length = 4 ∧
      Story.ReportedInOrder [poll] start.diagnostics := by
  have hfails : Story.ofRows context [poll, spoiltRow] =
      .error { row := 1, script := "[s1] Yes\n#1;em;Heart", fault := .emptySlot 1 } := by
    simp only [Story.ofRows, poll, Staging.run, Staging.push, Scene.stage, Staging.scene,
      directives_poll, directives_spoilt]
    rfl
  have hlonger : ∃ longer, Story.ofRows context ([poll] ++ rows) = .ok longer ∧
      longer.units.length = 4 := by
    simp only [Story.ofRows, poll, rows, List.cons_append, List.nil_append, Staging.run,
      Staging.push, Scene.stage, Staging.scene, directives_poll, directives_first,
      directives_second, directives_third]
    exact ⟨_, rfl, rfl⟩
  have hdiagnostics : (Story.ofRows context [poll]).map (·.diagnostics) = .ok [pollReport] := by
    simp only [Story.ofRows, poll, Staging.run, Staging.push, Scene.stage, Staging.scene,
      directives_poll]
    rfl
  obtain ⟨longer, hstory, hlength⟩ := hlonger
  obtain ⟨_, hfurther, _⟩ := Story.begins_of_ofRows_append context [poll] rows
  obtain ⟨start, hstart, hbegins⟩ := hfurther longer hstory
  rw [hstart] at hdiagnostics
  exact ⟨⟨hfails, (Story.begins_of_ofRows_append context [poll, spoiltRow] rows).1 _ hfails⟩,
    start, longer, hstart, hstory, hbegins, Except.ok.inj hdiagnostics, hlength,
    (Story.begins_of_ofRows_append context [poll] rows).2.2 start hstart⟩

end Sample
end VisualNovel
