/-
# Which lines are reported

Where a row has no text, its answers are read from its script, and every line of the script is read
once more as if it were an answer. A line with another directive is none and is reported as
malformed, although the directive was found there and has had its effect. That this happens depends
on one thing alone: that an answer is written anywhere in the script.

The row at the end pauses and then offers one answer, and its pause is reported.
-/

import VisualNovel.Proofs.Script.Exclusion
import VisualNovel.Proofs.Staging.Answers

namespace VisualNovel

open Script

/-- What is read as an answer and has no line break is an option of the script. -/
theorem Choice.match?_of_parts? {line : List Char} {parts : List Char × List Char}
    (hparts : parts? line = some parts) (hline : '\n' ∉ line) :
    ∃ found, match? line = some found ∧ found.directive.isOption = true := by
  obtain ⟨⟨label, rest⟩, hlabel, _⟩ := Option.bind_eq_some_iff.mp hparts
  have hrest : '\n' ∉ rest := fun hmem =>
    hline ((Grammar.optionLabel_consumes hlabel).1.subset hmem)
  have hread : Kind.option.reader line = some (.option label rest, []) := by
    rw [Kind.reader, Text.Reader.bind_of_eq_some hlabel]
    exact Text.Reader.bind_of_eq_some (if_neg hrest)
  have hfound : Kind.option.match? line = some ⟨.option label rest, line, []⟩ := by
    simp [Kind.match?, hread]
  exact ⟨_, match?_of_kind hfound, rfl⟩

/-- So a line on which another directive is found is no answer. -/
theorem Choice.parts?_eq_none {line : List Char} {found : Match} (hfound : match? line = some found)
    (hother : found.directive.isOption = false) (hline : '\n' ∉ line) : parts? line = none := by
  rw [Option.eq_none_iff_forall_ne_some]
  intro parts hparts
  obtain ⟨option, hoption, hisOption⟩ := Choice.match?_of_parts? hparts hline
  rw [hfound, Option.some.injEq] at hoption
  rw [hoption, hisOption] at hother
  cases hother

namespace Scene

variable {scene : Scene} {unit : StoryUnit} {reports : List StagingError}

/-- Without a text, answers are looked for on the lines of the script. -/
theorem choiceLines_of_text? (htext : scene.text? = none) :
    scene.choiceLines = (segments scene.row.script.toList).map (·.text) := by
  rw [choiceLines, textOr, htext, map_text_segments]
  rfl

/-- Without a text, the lines that are no answers are reported if an answer is written in the
script, and nothing else is. -/
theorem mem_reports_iff (hstage : scene.stage = (.ok unit, reports)) (htext : scene.text? = none)
    (report : StagingError) :
    report ∈ reports ↔
      (∃ directive ∈ directives scene.row.script.toList, directive.isOption = true) ∧
        report ∈ scene.malformedChoices := by
  obtain ⟨last, hrun, rfl⟩ := stage_eq_ok_iff.mp hstage
  have hreports := (answers_of_applyAll hrun).2
  have hopening : decide (scene.opening.kind = .choice) = false := by
    simp [opening, htext]
  have hread : readings (directives scene.row.script.toList) ≠ 0 ↔
      ∃ directive ∈ directives scene.row.script.toList, directive.isOption = true := by
    rw [Ne, readings_eq_zero_iff, Bool.not_eq_false, List.any_eq_true]
  rw [hopening] at hreports
  simp only [hreports, List.mem_flatten, List.mem_replicate, ← hread]
  constructor
  · rintro ⟨_, ⟨htimes, rfl⟩, hreport⟩
    exact ⟨htimes, hreport⟩
  · rintro ⟨htimes, hreport⟩
    exact ⟨_, ⟨htimes, rfl⟩, hreport⟩

/-- Without a text, a line on which another directive was found is reported exactly if an answer is
written in the script. -/
theorem exists_malformedOption_iff {segment : Segment} {found : Match}
    (hstage : scene.stage = (.ok unit, reports)) (htext : scene.text? = none)
    (hsegment : segment ∈ segments scene.row.script.toList)
    (hfound : match? segment.text = some found) (hother : found.directive.isOption = false) :
    (∃ report ∈ reports, report.fault = .malformedOption (String.ofList segment.text)) ↔
      ∃ directive ∈ directives scene.row.script.toList, directive.isOption = true := by
  have hmem := mem_reports_iff hstage htext
  have hline : segment.text ∈ scene.choiceLines :=
    choiceLines_of_text? htext ▸ List.mem_map_of_mem hsegment
  have hnone : (Choice.parts? segment.text).isNone = true := by
    rw [Choice.parts?_eq_none hfound hother (notMem_of_mem_visibleLines hline)]
    rfl
  have hmalformed : scene.error (.malformedOption (String.ofList segment.text)) ∈
      scene.malformedChoices :=
    List.mem_map_of_mem (List.mem_filter.mpr ⟨hline, hnone⟩)
  constructor
  · rintro ⟨report, hreport, _⟩
    exact ((hmem report).mp hreport).1
  · exact fun hoption => ⟨_, (hmem _).mpr ⟨hoption, hmalformed⟩, rfl⟩

end Scene

namespace Sample

/-- A pause and one answer, without a text. -/
def pausedPoll : Row := { script := "#wait;500\n[s1] Yes" }

theorem directives_pausedPoll :
    directives pausedPoll.script.toList = [.wait "500".toList, .option "1".toList " Yes".toList] :=
  directives_eq_of_lines
    [("#wait;500".toList, .wait "500".toList),
      ("[s1] Yes".toList, .option "1".toList " Yes".toList)]
    (by decide +kernel) (by decide +kernel)

theorem stage_pausedPoll :
    ∃ unit, (Staging.scene {} context pausedPoll).stage =
      (.ok unit, [(Staging.scene {} context pausedPoll).error (.malformedOption "#wait;500")]) := by
  have hdirectives := directives_pausedPoll
  simp only [pausedPoll] at hdirectives
  simp only [pausedPoll, Scene.stage, Staging.scene, hdirectives]
  exact ⟨_, Prod.ext rfl (by decide +kernel)⟩

/-- The line of the pause, and the directive that is found on it. -/
theorem segment_pausedPoll :
    ⟨0, "#wait;500".toList⟩ ∈ segments pausedPoll.script.toList ∧
      match? "#wait;500".toList = some ⟨.wait "500".toList, "#wait;500".toList, []⟩ := by
  constructor <;> decide +kernel

/-- The pause is reported. -/
theorem exists_malformedOption_pausedPoll :
    ∃ unit reports, (Staging.scene {} context pausedPoll).stage = (.ok unit, reports) ∧
      ∃ report ∈ reports, report.fault = .malformedOption "#wait;500" := by
  obtain ⟨unit, hstage⟩ := stage_pausedPoll
  obtain ⟨hsegment, hfound⟩ := segment_pausedPoll
  refine ⟨unit, _, hstage, ?_⟩
  refine (Scene.exists_malformedOption_iff hstage (by decide) hsegment hfound rfl).mpr ?_
  have hdirectives : directives (Staging.scene {} context pausedPoll).row.script.toList = _ :=
    directives_pausedPoll
  exact ⟨_, hdirectives ▸ List.mem_cons_of_mem _ List.mem_cons_self, rfl⟩

/-- What a script says apart from its answers is not always left out of the reports. -/
theorem not_recognized_unreported :
    ¬ ∀ (scene : Scene) (unit : StoryUnit) (reports : List StagingError) (segment : Segment)
        (found : Match), scene.stage = (.ok unit, reports) → scene.text? = none →
      segment ∈ segments scene.row.script.toList → match? segment.text = some found →
      found.directive.isOption = false →
      ∀ report ∈ reports, report.fault ≠ .malformedOption (String.ofList segment.text) := by
  intro hall
  obtain ⟨unit, hstage⟩ := stage_pausedPoll
  obtain ⟨hsegment, hfound⟩ := segment_pausedPoll
  exact hall _ unit _ _ _ hstage (by decide) hsegment hfound rfl _ List.mem_cons_self rfl

end Sample
end VisualNovel
