/-
# What the player's settings decide

A story is staged for a player, who reads it in a language and is called by a name. Both decide what
there is to read, and with it what kind of unit a row becomes. Everything else is the same for every
player: who is on stage and what they do, what is heard and shown, the set-up of the animated
backgrounds, and whether the story can be staged at all, with the error if it cannot.

The proof compares two runs over the same rows. The scenes of a row for two players are parallel:
they agree but for the language, the name and the words of the units before. No directive lets one
of the three into the rest of a unit, so parallel scenes make units that agree but for their words,
and the scenes of the next row are parallel again.

The diagnostics are left out of the comparison, as they should be: the answers of a choice are read
from the text in the player's language, and so are the reports of malformed lines.
-/

import VisualNovel.Proofs.Staging.Run

namespace VisualNovel

open Script

/-- Results with the same image are both failures, with the same error, or both successes. -/
theorem Except.map_eq_map_cases {error first second image : Type} {result : Except error first}
    {other : Except error second} {f : first → image} {g : second → image}
    (hsame : result.map f = other.map g) :
    (∃ fault, result = .error fault ∧ other = .error fault) ∨
      ∃ value otherValue, result = .ok value ∧ other = .ok otherValue ∧ f value = g otherValue := by
  cases result with
  | error fault =>
    cases other with
    | error otherFault =>
      cases hsame
      exact .inl ⟨fault, rfl, rfl⟩
    | ok value => cases hsame
  | ok value =>
    cases other with
    | error fault => cases hsame
    | ok otherValue => exact .inr ⟨value, otherValue, rfl, rfl, Except.ok.inj hsame⟩

/-- The text of a unit without what depends on the player. What is left is what happens to floating
text, and whether there is a title card and whether it announces the next episode. -/
def UnitText.wordless (text : UnitText) : UnitText :=
  { floating := text.floating
    title := text.title.map fun card => { nextEpisode := card.nextEpisode } }

/-- The unit without its kind and without the words in it. -/
def StoryUnit.wordless (unit : StoryUnit) : StoryUnit :=
  { unit with kind := .text, text := unit.text.wordless }

/-- The units without their words, and the registry. -/
def Story.wordless (story : Story) : Story :=
  { units := story.units.map (·.wordless), registry := story.registry }

@[simp]
theorem StoryUnit.cast_wordless (unit : StoryUnit) : unit.wordless.cast = unit.cast := rfl

theorem StoryUnit.cast_eq_of_wordless_eq {unit other : StoryUnit}
    (hsame : unit.wordless = other.wordless) : unit.cast = other.cast := by
  rw [← unit.cast_wordless, hsame, other.cast_wordless]

theorem UnitText.wordless_eq_iff {text other : UnitText} :
    text.wordless = other.wordless ↔
      text.floating = other.floating ∧
        text.title.map (·.nextEpisode) = other.title.map (·.nextEpisode) := by
  unfold wordless
  cases text.title <;> cases other.title <;> simp

@[simp]
theorem Speech.nextEpisode_titleCard (nextEpisode : Bool) (parts : List String) :
    (Speech.titleCard nextEpisode parts).nextEpisode = nextEpisode := by
  unfold Speech.titleCard
  split <;> rfl

/-- Which words are read, and in which scene, does not show in what is left without them. -/
theorem Speech.wordless_after {text other : UnitText} (hsame : text.wordless = other.wordless)
    (first second : Scene) (kind otherKind : UnitKind) (directive : Directive) :
    (Speech.after first kind text directive).wordless =
      (Speech.after second otherKind other directive).wordless := by
  obtain ⟨hfloating, htitle⟩ := UnitText.wordless_eq_iff.mp hsame
  rw [UnitText.wordless_eq_iff]
  cases directive with
  | title | nextEpisode => simp [Speech.after, Speech.rowTitle, hfloating]
  | floatingText x y mode duration trailing =>
    cases htrailing : trailing.visible? <;>
      simp [Speech.after, Speech.placeFloating, htrailing, hfloating, htitle]
  | character slot name face talk =>
    cases htalk : talk.visible? <;> simp [Speech.after, htalk, hfloating, htitle]
  | option label payload =>
    simp only [Speech.after]
    split <;> split <;> exact ⟨hfloating, htitle⟩
  | _ => simp [Speech.after, Speech.placeFloating, hfloating, htitle]

/-- The scenes differ at most in the language, in the name of the player and in the words of the
units before. -/
structure Scene.Parallel (first second : Scene) : Prop where
  tables : first.tables = second.tables
  root : first.settings.root = second.settings.root
  row : first.row = second.row
  index : first.index = second.index
  earlier : first.earlier.map (·.wordless) = second.earlier.map (·.wordless)

namespace Scene

variable {first second : Scene} {unit other : StoryUnit}

theorem Parallel.url (hparallel : first.Parallel second) (kind : ResourceKind) (name : String) :
    first.url kind name = second.url kind name := by
  simp only [StagingContext.url, hparallel.root]

theorem Parallel.error (hparallel : first.Parallel second) (fault : StagingFault) :
    first.error fault = second.error fault := by
  simp only [Scene.error, hparallel.row, hparallel.index]

/-- Whoever stood in a slot last is found without looking at words. -/
theorem lastOccupant?_wordless (earlier : List StoryUnit) (count : Nat) (position : UInt8) :
    Cast.lastOccupant? (earlier.map (·.wordless)) count position =
      Cast.lastOccupant? earlier count position := by
  simp only [Cast.lastOccupant?, ← List.map_take, ← List.map_reverse, List.findSome?_map]
  rfl

/-- Parallel scenes leave the same cast, or fail with the same error. -/
theorem Parallel.after_eq (hparallel : first.Parallel second) (cast : List StagedCharacter)
    (directive : Directive) :
    Cast.after first cast directive = Cast.after second cast directive := by
  cases directive with
  | characterEffect slot kind name async =>
    have hlast : Cast.lastOccupant? first.earlier first.index slot.position =
        Cast.lastOccupant? second.earlier second.index slot.position := by
      rw [← lastOccupant?_wordless, hparallel.earlier, lastOccupant?_wordless, hparallel.index]
    simp only [Cast.after, Cast.animate, Cast.occupied?, hlast, hparallel.error]
  | character slot name face talk =>
    simp only [Cast.after, Cast.call, Cast.called, hparallel.tables, hparallel.url, hparallel.error]
  | _ => rfl

theorem Parallel.still_eq (hparallel : first.Parallel second) : first.still? = second.still? := by
  simp only [still?, backgroundRecord?, transition?, hparallel.tables, hparallel.row, hparallel.url]

theorem Parallel.live2d_eq (hparallel : first.Parallel second) :
    first.live2d? = second.live2d? := by
  simp only [live2d?, backgroundRecord?, hparallel.tables, hparallel.row, hparallel.url]

theorem Parallel.music_eq (hparallel : first.Parallel second) : first.music? = second.music? := by
  simp only [music?, hparallel.tables, hparallel.row, hparallel.url]

theorem Parallel.namedUrl_eq (hparallel : first.Parallel second) (kind : ResourceKind)
    (name : String) : first.namedUrl? kind name = second.namedUrl? kind name := by
  simp only [namedUrl?, hparallel.url]

theorem Parallel.audio_eq (hparallel : first.Parallel second) : first.audio? = second.audio? := by
  unfold audio?
  rw [hparallel.music_eq, hparallel.row, hparallel.namedUrl_eq, hparallel.namedUrl_eq]

/-- Before the script, only the kind of a unit can depend on the player. -/
theorem Parallel.wordless_opening (hparallel : first.Parallel second) :
    first.opening.wordless = second.opening.wordless := by
  simp only [StoryUnit.wordless, opening, ownTransition?, transition?, hparallel.still_eq,
    hparallel.live2d_eq, hparallel.audio_eq, hparallel.namedUrl_eq, hparallel.tables, hparallel.row]

theorem Parallel.registered_eq (hparallel : first.Parallel second) (registry : Live2dRegistry) :
    first.registered registry = second.registered registry := by
  simp only [registered, live2dConfig, hparallel.live2d_eq, hparallel.tables]

theorem Parallel.video_eq (hparallel : first.Parallel second) (directive : Directive) :
    first.video? directive = second.video? directive := by
  cases directive with
  | video picture sound => simp only [video?, hparallel.url]
  | _ => rfl

theorem Parallel.wordless_applied (hparallel : first.Parallel second)
    (hsame : unit.wordless = other.wordless) (cast : List StagedCharacter)
    (directive : Directive) :
    (first.applied unit cast directive).wordless =
      (second.applied other cast directive).wordless := by
  have htext : unit.text.wordless = other.text.wordless := congrArg StoryUnit.text hsame
  have hafter := Speech.wordless_after htext first second unit.kind other.kind directive
  simp only [StoryUnit.wordless, StoryUnit.mk.injEq] at hsame ⊢
  simp only [applied, hafter, hparallel.video_eq, hsame, and_self]

/-- A directive fails in both scenes or in none, and keeps units equal up to their words. -/
theorem Parallel.wordless_apply (hparallel : first.Parallel second)
    (hsame : unit.wordless = other.wordless) (directive : Directive) :
    (first.apply unit directive).map (·.1.wordless) =
      (second.apply other directive).map (·.1.wordless) := by
  unfold Scene.apply
  rw [hparallel.after_eq, StoryUnit.cast_eq_of_wordless_eq hsame]
  cases Cast.after second other.cast directive with
  | error fault => rfl
  | ok cast => exact congrArg Except.ok (hparallel.wordless_applied hsame cast directive)

/-- By induction on the directives, so do all of them. -/
theorem Parallel.wordless_applyAll (hparallel : first.Parallel second)
    (hsame : unit.wordless = other.wordless) (directives : List Directive) :
    (first.applyAll unit directives).1.map (·.wordless) =
      (second.applyAll other directives).1.map (·.wordless) := by
  induction directives generalizing unit other with
  | nil => exact congrArg Except.ok hsame
  | cons directive rest ih =>
    simp only [applyAll]
    obtain ⟨fault, hfirst, hsecond⟩ | ⟨next, otherNext, hfirst, hsecond, hnext⟩ :=
      Except.map_eq_map_cases (hparallel.wordless_apply hsame directive)
    · rw [hfirst, hsecond]
    · rw [hfirst, hsecond]
      exact ih hnext

/-- Parallel scenes stage units that agree but for their words, or fail with the same error. -/
theorem Parallel.wordless_stage (hparallel : first.Parallel second) :
    first.stage.1.map (·.wordless) = second.stage.1.map (·.wordless) := by
  have hrun := hparallel.wordless_applyAll hparallel.wordless_opening
    (directives second.row.script.toList)
  rw [stage_eq, stage_eq, hparallel.row]
  obtain ⟨fault, hfirst, hsecond⟩ | ⟨unit, other, hfirst, hsecond, hsame⟩ :=
    Except.map_eq_map_cases hrun
  · rw [hfirst, hsecond]
  · rw [hfirst, hsecond]
    exact congrArg (fun bare => Except.ok { bare with cast := Cast.lit bare.cast }) hsame

end Scene

namespace Staging

variable (tables : ReferenceTables) {settings others : PlayerSettings} {staging other : Staging}

/-- After stories that agree but for their words, the scenes of the next row are parallel. -/
theorem parallel_scene (hroot : settings.root = others.root)
    (hsame : staging.story.wordless = other.story.wordless) (row : Row) :
    (staging.scene { tables, settings } row).Parallel
      (other.scene { tables, settings := others } row) := by
  have hunits : staging.units.map (·.wordless) = other.units.map (·.wordless) :=
    congrArg Story.units hsame
  have hlength : staging.units.length = other.units.length := by
    simpa only [List.length_map] using congrArg List.length hunits
  exact
    { tables := rfl
      root := hroot
      row := rfl
      index := hlength
      earlier := hunits }

/-- By induction on the rows, so are all scenes of two runs, and the runs end alike. -/
theorem wordless_run (hroot : settings.root = others.root)
    (hsame : staging.story.wordless = other.story.wordless) (rows : List Row) :
    (run { tables, settings } staging rows).map (·.story.wordless) =
      (run { tables, settings := others } other rows).map (·.story.wordless) := by
  induction rows generalizing staging other with
  | nil => exact congrArg Except.ok hsame
  | cons row rest ih =>
    have hparallel := parallel_scene tables hroot hsame row
    simp only [run, push_eq]
    obtain ⟨fault, hfirst, hsecond⟩ | ⟨unit, otherUnit, hfirst, hsecond, hunit⟩ :=
      Except.map_eq_map_cases hparallel.wordless_stage
    · rw [hfirst, hsecond]
    · rw [hfirst, hsecond]
      apply ih
      have hunits : staging.units.map (·.wordless) = other.units.map (·.wordless) :=
        congrArg Story.units hsame
      have hregistry : staging.registry = other.registry := congrArg Story.registry hsame
      simp [story, Story.wordless, Except.toOption, hunits, hunit, hregistry,
        hparallel.registered_eq]

end Staging

/-- To two players with the same resources a story is the same but for its words, or fails with the
same error. -/
theorem Story.ofRows_wordless_eq {settings others : PlayerSettings}
    (hroot : settings.root = others.root) (tables : ReferenceTables) (rows : List Row) :
    (ofRows { tables, settings } rows).map Story.wordless =
      (ofRows { tables, settings := others } rows).map Story.wordless := by
  have hstart : ({} : Staging).story.wordless = ({} : Staging).story.wordless := rfl
  obtain ⟨fault, hfirst, hsecond⟩ | ⟨last, otherLast, hfirst, hsecond, hsame⟩ :=
    Except.map_eq_map_cases (Staging.wordless_run tables hroot hstart rows)
  · rw [ofRows, ofRows, hfirst, hsecond]
  · rw [ofRows, ofRows, hfirst, hsecond]
    exact congrArg Except.ok hsame

namespace Sample

/-- A player who reads English. -/
def english : PlayerSettings := { language := .en, player := "Sensei" }

/-- A row with words in English only. -/
def greeting : Row :=
  { script := "1;Yuuka;02"
    texts := { jp := none, cn := none, tw := none, en := some "Hello!", th := none } }

theorem directives_greeting :
    directives "1;Yuuka;02".toList = [.character 0 "Yuuka".toList "02".toList none] :=
  directives_eq_of_lines [("1;Yuuka;02".toList, .character 0 "Yuuka".toList "02".toList none)]
    (by decide +kernel) (by decide +kernel)

/-- One player reads the greeting and one does not, but both see the same character. -/
theorem wordless_greeting :
    context.settings.root = english.root ∧
      (Story.unitsOfRows context [greeting]).map (·.map (·.kind)) = .ok [.effectOnly] ∧
      (Story.unitsOfRows { tables, settings := english } [greeting]).map (·.map (·.kind)) =
        .ok [.text] ∧
      (Story.ofRows context [greeting]).map Story.wordless =
        (Story.ofRows { tables, settings := english } [greeting]).map Story.wordless := by
  have hroot : context.settings.root = english.root := rfl
  refine ⟨hroot, ?_, ?_, Story.ofRows_wordless_eq hroot tables [greeting]⟩
  · simp only [Story.unitsOfRows, Story.ofRows, greeting, Staging.run, Staging.push, Scene.stage,
      Staging.scene, directives_greeting]
    rfl
  · simp only [Story.unitsOfRows, Story.ofRows, greeting, Staging.run, Staging.push, Scene.stage,
      Staging.scene, directives_greeting]
    rfl

end Sample
end VisualNovel
