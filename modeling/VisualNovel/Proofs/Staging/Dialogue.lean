/-
# The dialogue of a row

The text of a row makes dialogue of its unit, but does not put the words there. That is done by the
directives that say something: narration, and a character who is called with words of their own.
Each of them shows the whole text of the row in place of what was shown before, so it does not
matter how many there are and in what order they stand.

A row with a text and without such a directive is a unit of dialogue that shows no words. The second
row at the end is one.
-/

import VisualNovel.Proofs.Staging.Kind
import VisualNovel.Proofs.Staging.Run

namespace VisualNovel

open Script

/-- The words of a unit, without pauses and style. -/
def UnitText.words (text : UnitText) : String := String.join (text.runs.map (·.content))

/-- The directive shows the text of its row as dialogue. -/
def Script.Directive.isSpoken : Directive → Bool
  | .narration .. => true
  | .character _ _ _ talk => talk.visible?.isSome
  | _ => false

namespace Speech

variable {scene : Scene} {kind : UnitKind} {shown : UnitText} {directive : Directive}

/-- In a unit with a text something is said from the start, and it is dialogue only as long as
nothing else is made of it. -/
theorem eq_text_of_kindAfter (scene : Scene) (directive : Directive) (hkind : kind ≠ .effectOnly) :
    kindAfter scene kind directive ≠ .effectOnly ∧
      (kindAfter scene kind directive = .text → kind = .text) := by
  cases hmakes : directive.makes? with
  | none =>
    rcases kindAfter_of_makes?_eq_none scene kind hmakes with hkept | ⟨hnothing, _⟩
    · rw [hkept]
      exact ⟨hkind, id⟩
    · exact absurd hnothing hkind
  | some made =>
    obtain ⟨htext, hnothing⟩ := Directive.ne_of_makes? hmakes
    rw [kindAfter_of_makes? hmakes]
    exact ⟨hnothing, fun hmade => absurd hmade htext⟩

/-- In dialogue, a directive that says something shows the text of the row, and any other leaves the
words as they are. -/
theorem words_after {text : String} (htext : scene.text? = some text)
    (hafter : kindAfter scene kind directive = .text) :
    (after scene kind shown directive).words =
      if directive.isSpoken then scene.plainText text.toList else shown.words := by
  have hown (other : List Char) : scene.textOr other = text.toList := by
    rw [Scene.textOr, htext]
    rfl
  cases directive with
  | narration first second =>
    simp only [after, narration, hown, Directive.isSpoken]
    rfl
  | character slot name face talk =>
    cases htalk : talk.visible? with
    | none => simp [after, Directive.isSpoken, htalk]
    | some words =>
      simp only [after, hown, Directive.isSpoken, htalk]
      rfl
  | fontSize size =>
    simp only [after, Directive.isSpoken, UnitText.words, List.map_map]
    rfl
  | floatingText => cases hafter
  | middleText => cases hafter
  | option label rest =>
    simp only [after, Directive.isSpoken]
    split <;> rfl
  | _ => rfl

end Speech

namespace Scene

variable {scene : Scene} {unit last : StoryUnit} {reports : List StagingError}

/-- The words after the directives of a row with a text, where they make a unit of dialogue. -/
theorem words_of_applyAll {text : String} (htext : scene.text? = some text)
    {directives : List Directive}
    (hrun : scene.applyAll scene.opening directives = (.ok last, reports))
    (hkind : last.kind = .text) :
    last.text.words =
      if directives.any Directive.isSpoken then scene.plainText text.toList else "" := by
  have hopening : scene.opening.kind = .text := by
    simp [opening, htext]
  suffices hwords : last.kind ≠ .effectOnly ∧ (last.kind = .text → last.text.words =
      if directives.any Directive.isSpoken then scene.plainText text.toList else "") from
    hwords.2 hkind
  refine applyAll_induction
    (motive := fun done next _ => next.kind ≠ .effectOnly ∧ (next.kind = .text →
      next.text.words = if done.any Directive.isSpoken then scene.plainText text.toList else ""))
    ?_ ?_ hrun
  · exact ⟨by simp [hopening], fun _ => rfl⟩
  · rintro done before directive after earlier later ⟨hbefore, hwords⟩ happly
    obtain ⟨cast, _, rfl, _⟩ := apply_eq_ok_iff.mp happly
    obtain ⟨hstill, hdialogue⟩ := Speech.eq_text_of_kindAfter scene directive hbefore
    refine ⟨hstill, fun hafter => ?_⟩
    have hdialogue := hwords (hdialogue hafter)
    change (Speech.after scene before.kind before.text directive).words = _
    rw [Speech.words_after htext hafter, hdialogue, List.any_append, List.any_cons, List.any_nil,
      Bool.or_false]
    by_cases hspoken : directive.isSpoken = true <;> simp [hspoken]

/-- A unit of dialogue shows the text of its row without any tags if a directive of the row says
something, and shows no words otherwise. -/
theorem words_of_stage {text : String} (hstage : scene.stage = (.ok unit, reports))
    (htext : scene.text? = some text) (hkind : unit.kind = .text) :
    String.join (unit.text.runs.map (·.content)) =
      if (directives scene.row.script.toList).any Directive.isSpoken
      then scene.plainText text.toList else "" := by
  obtain ⟨last, hrun, rfl⟩ := stage_eq_ok_iff.mp hstage
  have hwords := words_of_applyAll htext hrun hkind
  exact hwords

end Scene

namespace Sample

/-- A row in which a character talks, with a text for what is said. -/
def spokenGreeting : Row :=
  { script := "1;Yuuka;02;Hello"
    texts := { jp := some "[b]Good[/b] morning", cn := none, tw := none, en := none, th := none } }

/-- A row with a text and nothing else. -/
def unspokenGreeting : Row :=
  { texts := { jp := some "Good morning", cn := none, tw := none, en := none, th := none } }

theorem directives_spokenGreeting :
    directives spokenGreeting.script.toList =
      [.character 0 "Yuuka".toList "02".toList (some "Hello".toList)] :=
  directives_eq_of_lines
    [("1;Yuuka;02;Hello".toList,
      .character 0 "Yuuka".toList "02".toList (some "Hello".toList))]
    (by decide +kernel) (by decide +kernel)

/-- The character says the text of the row. -/
theorem words_of_stage_spokenGreeting :
    ∃ unit reports,
      (Staging.scene {} context spokenGreeting).stage = (.ok unit, reports) ∧
      (Staging.scene {} context spokenGreeting).text? = some "[b]Good[/b] morning" ∧
      unit.kind = .text ∧
      String.join (unit.text.runs.map (·.content)) = "Good morning" := by
  have hstage : ∃ unit reports,
      (Staging.scene {} context spokenGreeting).stage = (.ok unit, reports) ∧
        unit.kind = .text := by
    have hdirectives := directives_spokenGreeting
    simp only [spokenGreeting] at hdirectives
    simp only [spokenGreeting, Scene.stage, Staging.scene, hdirectives]
    exact ⟨_, _, rfl, rfl⟩
  have htext : (Staging.scene {} context spokenGreeting).text? = some "[b]Good[/b] morning" := by
    decide +kernel
  have hplain : (Staging.scene {} context spokenGreeting).plainText
      "[b]Good[/b] morning".toList = "Good morning" := by
    decide +kernel
  obtain ⟨unit, reports, hstage, hkind⟩ := hstage
  have hwords := Scene.words_of_stage hstage htext hkind
  have hscript : directives (Staging.scene {} context spokenGreeting).row.script.toList =
      directives spokenGreeting.script.toList := rfl
  rw [hscript, directives_spokenGreeting, hplain] at hwords
  exact ⟨unit, reports, hstage, htext, hkind, hwords⟩

/-- A unit of dialogue does not always show the text of its row. -/
theorem not_words_eq_plainText :
    ¬ ∀ (scene : Scene) (unit : StoryUnit) (reports : List StagingError) (text : String),
      scene.stage = (.ok unit, reports) → scene.text? = some text → unit.kind = .text →
        String.join (unit.text.runs.map (·.content)) = scene.plainText text.toList := by
  intro hall
  have hstage : ∃ unit reports,
      (Staging.scene {} context unspokenGreeting).stage = (.ok unit, reports) ∧
        unit.kind = .text ∧ unit.text.runs = [] :=
    ⟨_, _, rfl, rfl, rfl⟩
  obtain ⟨unit, reports, hstage, hkind, hruns⟩ := hstage
  have htext : (Staging.scene {} context unspokenGreeting).text? = some "Good morning" := by
    decide +kernel
  have hplain : (Staging.scene {} context unspokenGreeting).plainText "Good morning".toList =
      "Good morning" := by
    decide +kernel
  have hwords := hall _ unit reports _ hstage htext hkind
  rw [hruns, hplain] at hwords
  exact absurd hwords (by decide)

end Sample
end VisualNovel
