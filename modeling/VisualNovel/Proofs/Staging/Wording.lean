/-
# Words that a translation stands in for

The script of a row has words of its own: what a character says, the second half of a narration,
text that floats, the lines of a choice. They are there for the author, and stand in for a text that
is missing. A player for whom the row has a text never sees them.

Two scripts may then say the same in different words. Here the words of a directive are veiled, so
that all that is left of them is whether there are any, and in a row with a text a directive does
the same with its words as without them. What still shows the script are reports and errors, which
quote it; nothing else in the scene of a row does.
-/

import Mathlib.Data.List.Forall2
import VisualNovel.Proofs.Staging.Run

namespace VisualNovel

open Script

/-- Results that are the same up to their errors are the same success or both failures. -/
theorem Except.mapError_eq_mapError_cases {error other image value : Type}
    {result : Except error value} {otherResult : Except other value} {f : error → image}
    {g : other → image} (hsame : result.mapError f = otherResult.mapError g) :
    (∃ fault otherFault, result = .error fault ∧ otherResult = .error otherFault ∧
        f fault = g otherFault) ∨
      ∃ last, result = .ok last ∧ otherResult = .ok last := by
  cases result with
  | error fault =>
    cases otherResult with
    | error otherFault => exact .inl ⟨fault, otherFault, rfl, rfl, Except.error.inj hsame⟩
    | ok last => cases hsame
  | ok last =>
    cases otherResult with
    | error otherFault => cases hsame
    | ok otherLast =>
      cases hsame
      exact .inr ⟨last, rfl, rfl⟩

namespace Script

/-- The parameter with its words hidden, so that only is seen whether there are any. -/
def Parameter.veiled (parameter : Parameter) : Parameter :=
  parameter.visible?.map fun _ => "…".toList

@[simp]
theorem Parameter.isSome_visible?_veiled (parameter : Parameter) :
    parameter.veiled.visible?.isSome = parameter.visible?.isSome := by
  unfold veiled
  cases parameter.visible? <;> rfl

/-- A parameter and the veiled one are both missing or both there. -/
theorem Parameter.visible?_veiled_cases (parameter : Parameter) :
    (parameter.visible? = none ∧ parameter.veiled.visible? = none) ∨
      ∃ words other, parameter.visible? = some words ∧ parameter.veiled.visible? = some other := by
  unfold veiled
  cases parameter.visible? with
  | none => exact .inl ⟨rfl, rfl⟩
  | some words => exact .inr ⟨words, _, rfl, rfl⟩

/-- The directive without the words that a text of the row stands in for. Of text on the middle line
it does not even matter whether the script has any. What follows the keyword of a title card or a
place is no part of the directive to begin with. -/
def Directive.veiled : Directive → Directive
  | .narration first second => .narration first second.veiled
  | .floatingText x y mode duration trailing => .floatingText x y mode duration trailing.veiled
  | .middleText x y mode duration _ => .middleText x y mode duration none
  | .character slot name face talk => .character slot name face talk.veiled
  | .option _ _ => .option [] []
  | directive => directive

end Script

/-- The other row has the same columns, and where its script is another one, the row has a text in
the language and the scripts differ in nothing but veiled words. -/
structure Row.Reworded (language : Language) (row other : Row) : Prop where
  columns : other = { row with script := other.script }
  words : row.script ≠ other.script → (row.text language).isSome ∧
    (Script.directives row.script.toList).map Directive.veiled =
      (Script.directives other.script.toList).map Directive.veiled

namespace Scene

variable {scene : Scene}

/-- Where the row has a text, nothing stands in for it. -/
theorem textOr_eq (htext : scene.text?.isSome) (first second : List Char) :
    scene.textOr first = scene.textOr second := by
  obtain ⟨text, htext⟩ := Option.isSome_iff_exists.mp htext
  rw [textOr, textOr, htext]
  rfl

/-- The cast only looks at whether a character talks. -/
theorem cast_after_veiled (scene : Scene) (cast : List StagedCharacter) (directive : Directive) :
    Cast.after scene cast directive.veiled = Cast.after scene cast directive := by
  cases directive with
  | character slot name face talk =>
    simp only [Directive.veiled, Cast.after, Parameter.isSome_visible?_veiled]
  | _ => rfl

theorem narration_veiled (htext : scene.text?.isSome) (first second : Parameter) :
    Speech.narration scene first second.veiled = Speech.narration scene first second := by
  rw [Speech.narration, Speech.narration, textOr_eq htext]

theorem narrator?_veiled (scene : Scene) (first second : Parameter) :
    Speech.narrator? scene first second.veiled = Speech.narrator? scene first second := by
  obtain ⟨hboth, hother⟩ | ⟨words, other, hboth, hother⟩ := second.visible?_veiled_cases
  · simp only [Speech.narrator?, hboth, hother]
  · simp only [Speech.narrator?, hboth, hother, Option.bind_some]

/-- What there is to read is the row's text, whichever words the directive has for it. -/
theorem speech_after_veiled (htext : scene.text?.isSome) (kind : UnitKind) (text : UnitText)
    (directive : Directive) :
    Speech.after scene kind text directive.veiled = Speech.after scene kind text directive := by
  cases directive with
  | narration first second =>
    simp only [Directive.veiled, Speech.after, narration_veiled htext, narrator?_veiled]
  | floatingText x y mode duration trailing =>
    obtain ⟨hboth, hother⟩ | ⟨words, other, hboth, hother⟩ := trailing.visible?_veiled_cases
    · simp only [Directive.veiled, Speech.after, hboth, hother]
    · simp only [Directive.veiled, Speech.after, hboth, hother, textOr_eq htext other words]
  | middleText x y mode duration trailing =>
    simp only [Directive.veiled, Speech.after,
      textOr_eq htext (Parameter.text none) trailing.text]
  | character slot name face talk =>
    obtain ⟨hboth, hother⟩ | ⟨words, other, hboth, hother⟩ := talk.visible?_veiled_cases
    · simp only [Directive.veiled, Speech.after, hboth, hother]
    · simp only [Directive.veiled, Speech.after, hboth, hother, textOr_eq htext other words]
  | _ => rfl

theorem kindAfter_veiled (htext : scene.text?.isSome) (kind : UnitKind) (directive : Directive) :
    Speech.kindAfter scene kind directive.veiled = Speech.kindAfter scene kind directive := by
  cases directive with
  | narration first second =>
    simp only [Directive.veiled, Speech.kindAfter, narration_veiled htext]
  | character slot name face talk =>
    simp only [Directive.veiled, Speech.kindAfter, Parameter.isSome_visible?_veiled]
  | _ => rfl

/-- A directive does the same with its words as without them. -/
theorem apply_veiled (htext : scene.text?.isSome) (unit : StoryUnit) (directive : Directive) :
    scene.apply unit directive.veiled = scene.apply unit directive := by
  have hscreen : directive.veiled.screenEffects = directive.screenEffects := by
    cases directive <;> rfl
  have hhides : directive.veiled.hides? = directive.hides? := by cases directive <;> rfl
  have hshows : (directive.veiled == .showMenu) = (directive == .showMenu) := by
    cases directive <;> rfl
  have hvideo : scene.video? directive.veiled = scene.video? directive := by
    cases directive <;> rfl
  have hreports : Speech.reports scene unit.kind directive.veiled =
      Speech.reports scene unit.kind directive := by
    cases directive <;> rfl
  simp only [apply, applied, cast_after_veiled, speech_after_veiled htext, kindAfter_veiled htext,
    hscreen, hhides, hshows, hvideo, hreports]

/-- By induction on the directives, so do all of them. -/
theorem applyAll_veiled (htext : scene.text?.isSome) (unit : StoryUnit)
    (directives : List Directive) :
    scene.applyAll unit (directives.map Directive.veiled) = scene.applyAll unit directives := by
  induction directives generalizing unit with
  | nil => rfl
  | cons directive rest ih => simp only [List.map_cons, applyAll, apply_veiled htext, ih]

end Scene

/-- The report without the script that it quotes. -/
def StagingError.unquoted (report : StagingError) : StagingError := { report with script := "" }

/-- The scene of the row without its script. -/
def Scene.unquoted (scene : Scene) : Scene := { scene with row := { scene.row with script := "" } }

/-- The story with reports that do not quote their scripts. -/
def Story.unquoted (story : Story) : Story :=
  { story with diagnostics := story.diagnostics.map (·.unquoted) }

namespace Scene

variable {scene : Scene}

/-- Where a cast cannot be changed, the script shows in the error only. -/
theorem cast_after_unquoted (scene : Scene) (cast : List StagedCharacter) (directive : Directive) :
    Cast.after scene.unquoted cast directive =
      (Cast.after scene cast directive).mapError StagingError.unquoted := by
  cases directive with
  | characterEffect slot kind name async =>
    have hsame : Cast.occupied? scene.unquoted cast slot.position =
        Cast.occupied? scene cast slot.position := rfl
    simp only [Cast.after, Cast.animate, hsame]
    cases Cast.occupied? scene cast slot.position <;> rfl
  | character slot name face talk =>
    have htables : scene.unquoted.tables = scene.tables := rfl
    have hcalled (name : String) : Cast.called scene.unquoted name =
        (Cast.called scene name).mapError StagingError.unquoted := by
      simp only [Cast.called, htables]
      cases scene.tables.characterId? name with
      | none => rfl
      | some id =>
        cases hrecord : scene.tables.character? id <;> simp only [hrecord] <;> rfl
    simp only [Cast.after, Cast.call, hcalled]
    cases Cast.called scene (String.ofList (Parameter.text (some name))) <;> rfl
  | _ => rfl

/-- Where the row has a text, a choice is not read from the script. -/
theorem choiceLines_unquoted (htext : scene.text?.isSome) :
    scene.unquoted.choiceLines = scene.choiceLines :=
  congrArg visibleLines (textOr_eq htext _ _)

theorem speech_after_unquoted (htext : scene.text?.isSome) (kind : UnitKind) (text : UnitText)
    (directive : Directive) :
    Speech.after scene.unquoted kind text directive = Speech.after scene kind text directive := by
  cases directive with
  | option label payload =>
    have hchoices : scene.unquoted.choices = scene.choices := by
      rw [choices, choiceLines_unquoted htext]
      rfl
    simp only [Speech.after, hchoices]
  | _ => rfl

theorem reports_unquoted (htext : scene.text?.isSome) (kind : UnitKind) (directive : Directive) :
    Speech.reports scene.unquoted kind directive =
      (Speech.reports scene kind directive).map StagingError.unquoted := by
  cases directive with
  | option label payload =>
    simp only [Speech.reports]
    split
    · rfl
    · rw [malformedChoices, choiceLines_unquoted htext, malformedChoices, List.map_map]
      rfl
  | _ => rfl

/-- Without its script, a row with a text is staged in the same way. -/
theorem apply_unquoted (htext : scene.text?.isSome) (unit : StoryUnit) (directive : Directive) :
    scene.unquoted.apply unit directive =
      ((scene.apply unit directive).mapError StagingError.unquoted).map fun next =>
        (next.1, next.2.map StagingError.unquoted) := by
  have happlied (cast : List StagedCharacter) :
      scene.unquoted.applied unit cast directive = scene.applied unit cast directive := by
    have hkind : Speech.kindAfter scene.unquoted unit.kind directive =
        Speech.kindAfter scene unit.kind directive := by
      cases directive <;> rfl
    have hvideo : scene.unquoted.video? directive = scene.video? directive := by
      cases directive <;> rfl
    simp only [applied, speech_after_unquoted htext, hkind, hvideo]
  unfold apply
  rw [cast_after_unquoted]
  cases Cast.after scene unit.cast directive with
  | error fault => rfl
  | ok cast =>
    change Except.ok _ = Except.ok _
    rw [happlied, reports_unquoted htext]

theorem applyAll_unquoted (htext : scene.text?.isSome) (unit : StoryUnit)
    (directives : List Directive) :
    scene.unquoted.applyAll unit directives =
      ((scene.applyAll unit directives).1.mapError StagingError.unquoted,
        (scene.applyAll unit directives).2.map StagingError.unquoted) := by
  induction directives generalizing unit with
  | nil => rfl
  | cons directive rest ih =>
    simp only [applyAll]
    rw [apply_unquoted htext]
    cases scene.apply unit directive with
    | error fault => rfl
    | ok next => simp only [Except.mapError, Except.map, ih, List.map_append]

/-- Rows with a text that only differ in the words of their scripts are staged alike, but for what
is quoted. -/
theorem stage_unquoted_eq {other : Scene} (hsame : scene.unquoted = other.unquoted)
    (htext : scene.text?.isSome)
    (hveiled : (directives scene.row.script.toList).map Directive.veiled =
      (directives other.row.script.toList).map Directive.veiled) :
    scene.stage.1.mapError StagingError.unquoted = other.stage.1.mapError StagingError.unquoted ∧
      scene.stage.2.map StagingError.unquoted = other.stage.2.map StagingError.unquoted := by
  have hother : other.text?.isSome := by
    have htexts : scene.unquoted.text? = other.unquoted.text? := by rw [hsame]
    exact htexts ▸ htext
  have hopening : scene.opening = other.opening := by
    change scene.unquoted.opening = other.unquoted.opening
    rw [hsame]
  have hruns : scene.unquoted.applyAll scene.opening (directives scene.row.script.toList) =
      other.unquoted.applyAll other.opening (directives other.row.script.toList) := by
    have htext : scene.unquoted.text?.isSome := htext
    have hother : other.unquoted.text?.isSome := hother
    rw [← applyAll_veiled htext, hveiled, hsame, hopening, applyAll_veiled hother]
  rw [applyAll_unquoted htext, applyAll_unquoted hother, Prod.mk.injEq] at hruns
  obtain ⟨hresults, hreports⟩ := hruns
  rw [stage_eq, stage_eq]
  refine ⟨?_, hreports⟩
  obtain ⟨fault, otherFault, hfirst, hsecond, hfault⟩ | ⟨unit, hfirst, hsecond⟩ :=
    Except.mapError_eq_mapError_cases hresults
  · rw [hfirst, hsecond]
    exact congrArg Except.error hfault
  · rw [hfirst, hsecond]

end Scene

namespace Staging

variable {context : StagingContext} {staging other : Staging}

/-- Rows that say the same in different words are staged alike behind stories that are alike. -/
theorem stage_of_reworded {row otherRow : Row}
    (hreworded : row.Reworded context.settings.language otherRow)
    (hunits : staging.units = other.units) :
    (staging.scene context row).stage.1.mapError StagingError.unquoted =
        (other.scene context otherRow).stage.1.mapError StagingError.unquoted ∧
      (staging.scene context row).stage.2.map StagingError.unquoted =
        (other.scene context otherRow).stage.2.map StagingError.unquoted := by
  by_cases hscript : row.script = otherRow.script
  · have hrow : otherRow = row := by rw [hreworded.columns, ← hscript]
    have hscene : staging.scene context row = other.scene context otherRow := by
      simp only [scene, hrow, hunits]
    rw [hscene]
    exact ⟨rfl, rfl⟩
  · obtain ⟨htext, hveiled⟩ := hreworded.words hscript
    refine Scene.stage_unquoted_eq ?_ htext hveiled
    simp only [Scene.unquoted, scene, hunits]
    rw [hreworded.columns]

/-- By induction on the rows, so are all of them, and the runs end alike. -/
theorem run_unquoted_eq {rows others : List Row}
    (hreworded : List.Forall₂ (Row.Reworded context.settings.language) rows others)
    (hsame : staging.story.unquoted = other.story.unquoted) :
    ((run context staging rows).mapError StagingError.unquoted).map (·.story.unquoted) =
      ((run context other others).mapError StagingError.unquoted).map (·.story.unquoted) := by
  induction hreworded generalizing staging other with
  | nil => exact congrArg Except.ok hsame
  | @cons row otherRow rest otherRest hrow _ ih =>
    obtain ⟨hresults, hreports⟩ := stage_of_reworded hrow (congrArg Story.units hsame)
    have hregistered : (staging.scene context row).registered staging.registry =
        (other.scene context otherRow).registered other.registry := by
      have hregistry : staging.registry = other.registry := congrArg Story.registry hsame
      rw [hregistry, hrow.columns]
      rfl
    simp only [run, push_eq]
    obtain ⟨fault, otherFault, hfirst, hsecond, hfault⟩ | ⟨unit, hfirst, hsecond⟩ :=
      Except.mapError_eq_mapError_cases hresults
    · rw [hfirst, hsecond]
      exact congrArg Except.error hfault
    · rw [hfirst, hsecond]
      apply ih
      have hunits : staging.units = other.units := congrArg Story.units hsame
      have hdiagnostics : staging.diagnostics.map (·.unquoted) =
          other.diagnostics.map (·.unquoted) := congrArg Story.diagnostics hsame
      simp only [story, Story.unquoted, List.map_append, hunits, hregistered, hdiagnostics,
        hreports]

end Staging

/-- A story does not show the words of its scripts where its rows have texts. With other words in
the scripts of such rows it is the same story, or fails at the same row for the same reason; only
reports and errors quote the other script. -/
theorem Story.ofRows_unquoted_eq {context : StagingContext} {rows others : List Row}
    (hreworded : List.Forall₂ (Row.Reworded context.settings.language) rows others) :
    ((ofRows context rows).mapError StagingError.unquoted).map Story.unquoted =
      ((ofRows context others).mapError StagingError.unquoted).map Story.unquoted := by
  have hstart : ({} : Staging).story.unquoted = ({} : Staging).story.unquoted := rfl
  have hruns := Staging.run_unquoted_eq hreworded hstart
  unfold ofRows
  cases hrun : Staging.run context {} rows <;> cases hother : Staging.run context {} others <;>
    rw [hrun, hother] at hruns <;> exact hruns

namespace Sample

/-- A row with the script and with a text for the player. -/
def translated (script text : String) : Row :=
  { script, texts := { jp := some text, cn := none, tw := none, en := none, th := none } }

/-- A talk with the words of its author. One line of the text for the choice is no answer. -/
def talk : List Row :=
  [translated "1;Yuuka;02;안녕" "やあ", translated "[s1] 네\n[s2] 아니" "[s1] はい\nいいえ",
   { script := "#1;a;hop" }]

/-- The talk with other words in its scripts. -/
def reworded : List Row :=
  [translated "1;Yuuka;02;Hello" "やあ", translated "[s1] Yes\n[s2] No" "[s1] はい\nいいえ",
   { script := "#1;a;hop" }]

theorem directives_talk :
    directives "1;Yuuka;02;안녕".toList =
        [.character 0 "Yuuka".toList "02".toList (some "안녕".toList)] ∧
      directives "[s1] 네\n[s2] 아니".toList =
        [.option "1".toList " 네".toList, .option "2".toList " 아니".toList] :=
  ⟨directives_eq_of_lines
      [("1;Yuuka;02;안녕".toList, .character 0 "Yuuka".toList "02".toList (some "안녕".toList))]
      (by decide +kernel) (by decide +kernel),
    directives_eq_of_lines
      [("[s1] 네".toList, .option "1".toList " 네".toList),
        ("[s2] 아니".toList, .option "2".toList " 아니".toList)]
      (by decide +kernel) (by decide +kernel)⟩

theorem directives_reworded :
    directives "1;Yuuka;02;Hello".toList =
        [.character 0 "Yuuka".toList "02".toList (some "Hello".toList)] ∧
      directives "[s1] Yes\n[s2] No".toList =
        [.option "1".toList " Yes".toList, .option "2".toList " No".toList] :=
  ⟨directives_eq_of_lines
      [("1;Yuuka;02;Hello".toList, .character 0 "Yuuka".toList "02".toList (some "Hello".toList))]
      (by decide +kernel) (by decide +kernel),
    directives_eq_of_lines
      [("[s1] Yes".toList, .option "1".toList " Yes".toList),
        ("[s2] No".toList, .option "2".toList " No".toList)]
      (by decide +kernel) (by decide +kernel)⟩

/-- The report of the line that is no answer, with the script that it quotes. -/
def talkReport (script : String) : StagingError :=
  { row := 1, script, fault := .malformedOption "いいえ" }

/-- The two talks are one story, in whose last unit a character is brought back, and only the report
on its choice tells them apart. -/
theorem ofRows_unquoted_eq_talk :
    List.Forall₂ (Row.Reworded context.settings.language) talk reworded ∧
      (Story.ofRows context talk).map (·.diagnostics) =
        .ok [talkReport "[s1] 네\n[s2] 아니"] ∧
      (Story.ofRows context reworded).map (·.diagnostics) =
        .ok [talkReport "[s1] Yes\n[s2] No"] ∧
      ((Story.ofRows context talk).mapError StagingError.unquoted).map Story.unquoted =
        ((Story.ofRows context reworded).mapError StagingError.unquoted).map Story.unquoted := by
  have hreworded : List.Forall₂ (Row.Reworded context.settings.language) talk reworded := by
    refine .cons ⟨rfl, fun _ => ⟨rfl, ?_⟩⟩ (.cons ⟨rfl, fun _ => ⟨rfl, ?_⟩⟩
      (.cons ⟨rfl, fun hother => absurd rfl hother⟩ .nil))
    · simp only [translated, directives_talk, directives_reworded]
      rfl
    · simp only [translated, directives_talk, directives_reworded, List.map_cons, List.map_nil,
        Directive.veiled]
  refine ⟨hreworded, ?_, ?_, Story.ofRows_unquoted_eq hreworded⟩
  · simp only [Story.ofRows, talk, translated, Staging.run, Staging.push, Scene.stage,
      Staging.scene, directives_talk, directives_second]
    rfl
  · simp only [Story.ofRows, reworded, translated, Staging.run, Staging.push, Scene.stage,
      Staging.scene, directives_reworded, directives_second]
    rfl

end Sample
end VisualNovel
