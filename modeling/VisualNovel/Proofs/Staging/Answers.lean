/-
# The answers of a row

The first line of a script that writes an answer makes a choice of its unit, and all answers of the
row are read there and then. The lines behind it find a choice and read nothing, so that the answers
are read once.

But a title card, the name of a place, floating text and the notice that the story goes on make
something else of the unit, whatever it was. A line behind them that writes an answer finds no
choice any more, and the answers of the row are read once more. How often they are read can be told
from the script: once for every stretch without such a directive in which an answer is written. The
story at the end has a row whose answers are read twice.
-/

import VisualNovel.Proofs.Staging.Kind
import VisualNovel.Proofs.Staging.Run

namespace VisualNovel

open Script

namespace Script

namespace Directive

/-- The directive writes an answer, and with it makes a choice of the unit. -/
def isOption (directive : Directive) : Bool := directive.makes? = some .choice

/-- The directive makes something else of a choice. -/
def overturns (directive : Directive) : Bool := directive.makes?.any (· ≠ .choice)

/-- What makes something else of a choice writes no answer. -/
theorem isOption_of_overturns {directive : Directive} (hoverturns : directive.overturns = true) :
    directive.isOption = false := by
  obtain ⟨made, hmakes, hother⟩ := (Option.any_eq_true _ _).mp hoverturns
  simpa [isOption, hmakes] using hother

end Directive

/-- How often a script has the answers of its row read: once for every stretch of it in which an
answer is written. -/
def readings (directives : List Directive) : Nat :=
  (directives.splitOnP Directive.overturns).countP (·.any Directive.isOption)

/-- A directive between two answers makes something else of the choice. -/
def Interrupted (directives : List Directive) : Prop :=
  ∃ before directive after, directives = before ++ directive :: after ∧
    directive.overturns = true ∧ before.any Directive.isOption = true ∧
    after.any Directive.isOption = true

variable {directives before after : List Directive} {directive : Directive}

/-- A directive that makes something else of the unit starts afresh. -/
theorem readings_append_cons (hoverturns : directive.overturns = true) :
    readings (before ++ directive :: after) = readings before + readings after := by
  rw [readings, List.splitOnP_append_cons _ _ hoverturns, List.countP_append]
  rfl

/-- Without such a directive the answers are read once at most. -/
theorem readings_eq_of_forall (hkept : ∀ directive ∈ directives, directive.overturns = false) :
    readings directives = if directives.any Directive.isOption then 1 else 0 := by
  rw [readings, List.splitOnP_eq_singleton hkept, List.countP_singleton]

/-- The first of the directives that make something else of the unit, unless there is none. -/
theorem kept_or_exists_overturns (directives : List Directive) :
    (∀ directive ∈ directives, directive.overturns = false) ∨
      ∃ before directive after, directives = before ++ directive :: after ∧
        directive.overturns = true ∧ ∀ other ∈ before, other.overturns = false := by
  cases hfound : directives.find? Directive.overturns with
  | none =>
    exact .inl fun directive hmem => by simpa using List.find?_eq_none.mp hfound directive hmem
  | some directive =>
    obtain ⟨hoverturns, before, after, rfl, hbefore⟩ := List.find?_eq_some_iff_append.mp hfound
    exact .inr ⟨before, directive, after, rfl, hoverturns, by simpa using hbefore⟩

/-- The answers are read if and only if there is one. -/
theorem readings_eq_zero_iff (directives : List Directive) :
    readings directives = 0 ↔ directives.any Directive.isOption = false := by
  rcases kept_or_exists_overturns directives with
    hkept | ⟨before, directive, after, rfl, hoverturns, hbefore⟩
  · rw [readings_eq_of_forall hkept]
    split <;> simp_all
  · have hafter := readings_eq_zero_iff after
    have hnone := Directive.isOption_of_overturns hoverturns
    rw [readings_append_cons hoverturns, readings_eq_of_forall hbefore, Nat.add_eq_zero_iff, hafter]
    simp [hnone]
termination_by directives.length

/-- They are read a second time exactly if the choice is interrupted. -/
theorem two_le_readings_iff (directives : List Directive) :
    2 ≤ readings directives ↔ Interrupted directives := by
  constructor
  · intro htwice
    rcases kept_or_exists_overturns directives with
      hkept | ⟨before, directive, after, rfl, hoverturns, hbefore⟩
    · rw [readings_eq_of_forall hkept] at htwice
      split at htwice <;> omega
    · rw [readings_append_cons hoverturns, readings_eq_of_forall hbefore] at htwice
      rcases Nat.lt_or_ge (readings after) 2 with hlater | hlater
      · refine ⟨before, directive, after, rfl, hoverturns, ?_, ?_⟩
        · split at htwice
          · assumption
          · omega
        · rw [← Bool.not_eq_false, ← readings_eq_zero_iff]
          split at htwice <;> omega
      · obtain ⟨first, next, rest, rfl, hnext, hfirst, hrest⟩ :=
          (two_le_readings_iff after).mp hlater
        exact ⟨before ++ directive :: first, next, rest, by simp, hnext, by simp [hfirst], hrest⟩
  · rintro ⟨before, directive, after, rfl, hoverturns, hbefore, hafter⟩
    rw [readings_append_cons hoverturns]
    have hfirst : readings before ≠ 0 := fun hnone => by
      rw [(readings_eq_zero_iff _).mp hnone] at hbefore
      cases hbefore
    have hsecond : readings after ≠ 0 := fun hnone => by
      rw [(readings_eq_zero_iff _).mp hnone] at hafter
      cases hafter
    omega
termination_by directives.length

/-- So they are read once exactly if there is an answer and the choice is not interrupted. -/
theorem readings_eq_one_iff :
    readings directives = 1 ↔
      directives.any Directive.isOption = true ∧ ¬ Interrupted directives := by
  rw [← two_le_readings_iff, ← Bool.not_eq_false, ← readings_eq_zero_iff]
  omega

/-- How often a script has the answers read in a unit that is a choice, or that is none. -/
def readingsIn (choosing : Bool) (directives : List Directive) : Nat :=
  ((directives.splitOnP Directive.overturns).drop choosing.toNat).countP (·.any Directive.isOption)

/-- The law of a directive: where an answer is written in a unit that is no choice, the answers are
read. -/
theorem readingsIn_cons (choosing : Bool) (directive : Directive) (rest : List Directive) :
    readingsIn choosing (directive :: rest) =
      readingsIn (directive.isOption || !directive.overturns && choosing) rest +
        if directive.isOption && !choosing then 1 else 0 := by
  rw [readingsIn, readingsIn, List.splitOnP_cons_eq_if_modifyHead]
  obtain ⟨first, later, hsplit⟩ := List.exists_cons_of_ne_nil
    (List.splitOnP_ne_nil Directive.overturns rest)
  rw [hsplit]
  by_cases hoverturns : directive.overturns = true
  · cases choosing <;> simp [Directive.isOption_of_overturns hoverturns, hoverturns]
  · by_cases hoption : directive.isOption = true
    · cases choosing <;> simp [hoption, hoverturns]
    · cases choosing <;> simp [hoption, hoverturns, List.countP_cons]

end Script

namespace Speech

variable {scene : Scene} {kind : UnitKind} {text : UnitText} {directive : Directive}

/-- A unit is a choice after an answer, and stays one until something else is made of it. -/
theorem kindAfter_eq_choice_iff :
    kindAfter scene kind directive = .choice ↔
      directive.isOption = true ∨ directive.overturns = false ∧ kind = .choice := by
  cases hmakes : directive.makes? with
  | none =>
    rcases kindAfter_of_makes?_eq_none scene kind hmakes with hkept | ⟨hnothing, hclaimed⟩
    · simp [hkept, Directive.isOption, Directive.overturns, hmakes]
    · rw [hclaimed]
      simp [hnothing, Directive.isOption, hmakes]
  | some made =>
    rw [kindAfter_of_makes? hmakes]
    by_cases hmade : made = .choice <;>
      simp [Directive.isOption, Directive.overturns, hmakes, hmade]

/-- The answers of a unit grow by those of the row where an answer makes a choice of it. -/
theorem choices_after :
    (after scene kind text directive).choices =
      text.choices ++
        if directive.isOption && decide (kind ≠ .choice) then scene.choices else [] := by
  cases directive with
  | character slot name face talk =>
    simp only [after]
    split <;> simp [Directive.isOption, Directive.makes?]
  | floatingText x y mode duration trailing =>
    simp only [after]
    split <;> simp [Directive.isOption, Directive.makes?, placeFloating]
  | option label rest =>
    by_cases hchoice : kind = .choice <;>
      simp [after, Directive.isOption, Directive.makes?, hchoice]
  | _ => simp [after, Directive.isOption, Directive.makes?, placeFloating]

/-- So do the reports by those of the malformed lines. -/
theorem reports_eq :
    reports scene kind directive =
      if directive.isOption && decide (kind ≠ .choice) then scene.malformedChoices else [] := by
  cases directive with
  | option label rest =>
    by_cases hchoice : kind = .choice <;>
      simp [reports, Directive.isOption, Directive.makes?, hchoice]
  | _ => rfl

end Speech

namespace Scene

variable {scene : Scene} {unit last : StoryUnit} {reports : List StagingError}

/-- The answers of the row are read as often as the script says, and the malformed lines are
reported as often. -/
theorem answers_of_applyAll {directives : List Directive}
    (hrun : scene.applyAll unit directives = (.ok last, reports)) :
    let times := readingsIn (decide (unit.kind = .choice)) directives
    last.text.choices = unit.text.choices ++ (List.replicate times scene.choices).flatten ∧
      reports = (List.replicate times scene.malformedChoices).flatten := by
  induction directives generalizing unit reports with
  | nil =>
    cases hrun
    cases decide (last.kind = .choice) <;> simp [readingsIn]
  | cons directive rest ih =>
    obtain ⟨middle, earlier, later, happly, hrest, rfl⟩ := applyAll_cons_eq_ok_iff.mp hrun
    obtain ⟨cast, _, rfl, rfl⟩ := apply_eq_ok_iff.mp happly
    obtain ⟨hchoices, hreports⟩ := ih hrest
    have hkind : decide ((scene.applied unit cast directive).kind = .choice) =
        (directive.isOption || !directive.overturns && decide (unit.kind = .choice)) := by
      rw [Bool.eq_iff_iff, decide_eq_true_iff]
      simp only [applied, Speech.kindAfter_eq_choice_iff, Bool.or_eq_true, Bool.and_eq_true,
        Bool.not_eq_true', decide_eq_true_iff]
    rw [hchoices, hreports, hkind, readingsIn_cons]
    simp only [applied, Speech.choices_after, Speech.reports_eq, decide_not]
    split <;> simp [List.replicate_succ]

end Scene

namespace Staging

/-- The answers that stand in the unit of a row are those of the row, and the reports that the row
adds are those of its malformed lines, both in the order of the lines and as often as the script has
the answers read. That is not at all exactly if no answer is written in the script, and once exactly
if one is and no directive between two of them makes something else of the choice. -/
theorem answers_of_push {context : StagingContext} {staging next : Staging} {row : Row}
    {unit : StoryUnit} (hpush : staging.push context row = (.ok unit, next)) :
    let scene := staging.scene context row
    let script := directives row.script.toList
    unit.text.choices =
        (List.replicate (readings script)
          (scene.choiceLines.filterMap (Choice.ofLine? scene))).flatten ∧
      next.diagnostics = staging.diagnostics ++
        (List.replicate (readings script)
          ((scene.choiceLines.filter fun line => (Choice.parts? line).isNone).map fun line =>
            { row := staging.units.length
              script := row.script
              fault := .malformedOption (String.ofList line) })).flatten ∧
      (readings script = 0 ↔ script.any Directive.isOption = false) ∧
      (readings script = 1 ↔ script.any Directive.isOption = true ∧ ¬ Interrupted script) := by
  intro scene script
  obtain ⟨reports, hstage, rfl⟩ := push_eq_ok_iff.mp hpush
  obtain ⟨last, hrun, rfl⟩ := Scene.stage_eq_ok_iff.mp hstage
  have hopening : decide (scene.opening.kind = .choice) = false := by
    simp only [Scene.opening]
    split <;> rfl
  obtain ⟨hchoices, hreports⟩ := Scene.answers_of_applyAll hrun
  rw [hopening] at hchoices hreports
  exact ⟨hchoices, congrArg (staging.diagnostics ++ ·) hreports, readings_eq_zero_iff script,
    readings_eq_one_iff⟩

end Staging

namespace Sample

/-- A choice with a notice between its answers. One line of its text is no answer. -/
def brokenPoll : Row :=
  { script := "[s1] 네\n#continued\n[s2] 아니"
    texts := { jp := some "[s1] Yes\nNo", cn := none, tw := none, en := none, th := none } }

theorem directives_brokenPoll :
    directives brokenPoll.script.toList =
      [.option "1".toList " 네".toList, .continued, .option "2".toList " 아니".toList] :=
  directives_eq_of_lines
    [("[s1] 네".toList, .option "1".toList " 네".toList), ("#continued".toList, .continued),
      ("[s2] 아니".toList, .option "2".toList " 아니".toList)]
    (by decide +kernel) (by decide +kernel)

/-- The report of the line that is no answer. -/
def brokenPollReport : StagingError :=
  { row := 0, script := brokenPoll.script, fault := .malformedOption "No" }

theorem choices_brokenPoll :
    (Staging.scene {} context brokenPoll).choices = [⟨1, "Yes"⟩] := by
  decide +kernel

/-- The row has one answer and one malformed line, and its unit either of them twice. -/
theorem push_brokenPoll :
    ∃ unit next, Staging.push {} context brokenPoll = (.ok unit, next) ∧
      unit.text.choices = [⟨1, "Yes"⟩, ⟨1, "Yes"⟩] ∧
      next.diagnostics = [brokenPollReport, brokenPollReport] := by
  have hdirectives := directives_brokenPoll
  simp only [brokenPoll] at hdirectives
  simp only [brokenPoll, Staging.push, Scene.stage, Staging.scene, hdirectives]
  exact ⟨_, _, rfl, by decide +kernel, by decide +kernel⟩

/-- The script has two stretches with an answer, and the answers of the row are read twice. -/
theorem answers_of_push_brokenPoll :
    ∃ unit next, Staging.push {} context brokenPoll = (.ok unit, next) ∧
      readings (directives brokenPoll.script.toList) = 2 ∧
      unit.text.choices = [⟨1, "Yes"⟩, ⟨1, "Yes"⟩] ∧
      next.diagnostics = [brokenPollReport, brokenPollReport] ∧
      unit.text.choices =
        (List.replicate 2 (Staging.scene {} context brokenPoll).choices).flatten := by
  obtain ⟨unit, next, hpush, hchoices, hreports⟩ := push_brokenPoll
  have htwice : readings (directives brokenPoll.script.toList) = 2 := by
    rw [directives_brokenPoll]
    rfl
  have hread := (Staging.answers_of_push hpush).1
  rw [htwice] at hread
  exact ⟨unit, next, hpush, htwice, hchoices, hreports, hread⟩

/-- A row with an answer does not always show each of its answers once and report each malformed
line once. -/
theorem not_answers_readOnce :
    ¬ ∀ (context : StagingContext) (staging next : Staging) (row : Row) (unit : StoryUnit),
      staging.push context row = (.ok unit, next) →
      (∃ directive ∈ directives row.script.toList, directive.isOption = true) →
      unit.text.choices = (staging.scene context row).choices ∧
        next.diagnostics =
          staging.diagnostics ++ (staging.scene context row).malformedChoices := by
  intro honce
  obtain ⟨unit, next, hpush, hchoices, _⟩ := push_brokenPoll
  have hoption : ∃ directive ∈ directives brokenPoll.script.toList, directive.isOption = true := by
    rw [directives_brokenPoll]
    exact ⟨_, List.mem_cons_self, rfl⟩
  have hread := (honce context {} next brokenPoll unit hpush hoption).1
  rw [hchoices, choices_brokenPoll] at hread
  cases hread

end Sample
end VisualNovel
