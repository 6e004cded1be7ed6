/-
# What directives make of a unit

A directive that makes something of its own of a unit does so whatever the unit was. Any other
directive leaves the kind of the unit, or claims a unit in which nothing was said for dialogue. So
the kind of a unit is that of the last directive that makes something of it, and dialogue only where
there is none.
-/

import VisualNovel.Proofs.Staging.Run

namespace VisualNovel

open Script

/-- What the directive makes of every unit. -/
def Script.Directive.makes? : Directive → Option UnitKind
  | .title | .nextEpisode => some .title
  | .place => some .place
  | .continued => some .continued
  | .floatingText .. | .middleText .. => some .floatingText
  | .option .. => some .choice
  | _ => none

/-- The directive claims a unit in which nothing was said: a narration that has something to say, or
a character with words of their own. -/
def Script.Directive.claims (scene : Scene) : Directive → Bool
  | .narration first second => !(Speech.narration scene (some first) second).isEmpty
  | .character _ _ _ talk => talk.visible?.isSome
  | _ => false

/-- Dialogue is not made but claimed. -/
theorem Script.Directive.ne_of_makes? {directive : Directive} {made : UnitKind}
    (hmakes : directive.makes? = some made) : made ≠ .text ∧ made ≠ .effectOnly := by
  cases directive <;> cases hmakes <;> decide

namespace Speech

variable {scene : Scene} {kind : UnitKind} {directive : Directive}

theorem claimed_cases (kind : UnitKind) :
    claimed kind = kind ∨ kind = .effectOnly ∧ claimed kind = .text := by
  cases kind with
  | effectOnly => exact .inr ⟨rfl, rfl⟩
  | _ => exact .inl rfl

theorem kindAfter_of_makes? {made : UnitKind} (hmakes : directive.makes? = some made) :
    kindAfter scene kind directive = made := by
  cases directive <;> cases hmakes <;> rfl

/-- A directive that makes nothing of a unit leaves the kind of it, unless nothing was said
there. -/
theorem kindAfter_of_makes?_eq_none (scene : Scene) (kind : UnitKind)
    (hmakes : directive.makes? = none) :
    kindAfter scene kind directive = kind ∨
      kind = .effectOnly ∧ kindAfter scene kind directive = .text := by
  cases directive with
  | narration first second =>
    simp only [kindAfter]
    split
    · exact .inl rfl
    · exact claimed_cases kind
  | character slot name face talk =>
    simp only [kindAfter]
    split
    · exact claimed_cases kind
    · exact .inl rfl
  | title | nextEpisode | place | continued | floatingText | middleText | option => cases hmakes
  | _ => exact .inl rfl

/-- The law of a directive: what it makes of every unit, or else dialogue where it claims one. -/
theorem kindAfter_eq (scene : Scene) (kind : UnitKind) (directive : Directive) :
    kindAfter scene kind directive =
      directive.makes?.getD (if directive.claims scene then claimed kind else kind) := by
  cases directive with
  | narration first second =>
    cases hempty : (narration scene (some first) second).isEmpty <;>
      simp [kindAfter, Directive.makes?, Directive.claims, hempty]
  | _ => rfl

end Speech

namespace Scene

variable {scene : Scene} {unit last : StoryUnit} {reports : List StagingError}

/-- What the unit is as long as nothing is made of it: dialogue if the row has a text or one of the
directives claims the unit. -/
def unmade (scene : Scene) (directives : List Directive) : UnitKind :=
  if scene.text?.isSome || directives.any (·.claims scene) then .text else .effectOnly

theorem opening_kind (scene : Scene) : scene.opening.kind = scene.unmade [] := by
  cases htext : scene.text? <;> simp [opening, unmade, htext]

theorem unmade_concat (scene : Scene) (done : List Directive) (directive : Directive) :
    scene.unmade (done ++ [directive]) =
      if directive.claims scene then Speech.claimed (scene.unmade done) else scene.unmade done := by
  unfold unmade
  rw [List.any_append, List.any_cons, List.any_nil, Bool.or_false, ← Bool.or_assoc]
  cases scene.text?.isSome || done.any (·.claims scene) <;> cases directive.claims scene <;> rfl

/-- What the last of them makes of the unit stands until the end, whatever is claimed after it. -/
theorem kind_of_applyAll {directives : List Directive}
    (hrun : scene.applyAll scene.opening directives = (.ok last, reports)) :
    last.kind =
      (directives.filterMap Directive.makes?).getLast?.getD (scene.unmade directives) := by
  refine applyAll_induction (motive := fun done next _ =>
    next.kind = (done.filterMap Directive.makes?).getLast?.getD (scene.unmade done)) ?_ ?_ hrun
  · exact scene.opening_kind
  · rintro done before directive after earlier later hbefore happly
    obtain ⟨cast, _, rfl, _⟩ := apply_eq_ok_iff.mp happly
    change Speech.kindAfter scene before.kind directive = _
    rw [Speech.kindAfter_eq, hbefore, List.filterMap_append]
    cases hmakes : directive.makes? with
    | some made => simp [hmakes]
    | none =>
      rw [unmade_concat]
      cases hmade : (done.filterMap Directive.makes?).getLast? with
      | none => simp [hmakes, hmade]
      | some made =>
        -- What was made of the unit is not there to be claimed.
        obtain ⟨maker, _, hmaker⟩ := List.mem_filterMap.mp (List.mem_of_getLast? hmade)
        have hkept : Speech.claimed made = made :=
          (Speech.claimed_cases made).resolve_right fun hnothing =>
            (Directive.ne_of_makes? hmaker).2 hnothing.1
        simp [hmakes, hmade, hkept]

/-- The kind of a unit is what the last directive of its row makes of it, among those that make
something of a unit at all. Where there is none, it is dialogue if the row has a text, if a
character is called with words of their own or if a narration has something to say, and nothing but
effects otherwise. -/
theorem kind_of_stage (hstage : scene.stage = (.ok unit, reports)) :
    unit.kind =
      ((directives scene.row.script.toList).filterMap Directive.makes?).getLast?.getD
        (if scene.text?.isSome || (directives scene.row.script.toList).any (·.claims scene)
          then .text else .effectOnly) := by
  obtain ⟨last, hrun, rfl⟩ := stage_eq_ok_iff.mp hstage
  have hkind := kind_of_applyAll hrun
  exact hkind

end Scene

namespace Sample

/-- A row that is first a title card and then a place, with dialogue before and behind the place. -/
def chapterStart : Row :=
  { script := "#title\n1;Yuuka;02;Hello\n#place\n#na;Later"
    texts := { jp := some "Rooftop", cn := none, tw := none, en := none, th := none } }

theorem directives_chapterStart :
    directives chapterStart.script.toList =
      [.title, .character 0 "Yuuka".toList "02".toList (some "Hello".toList), .place,
        .narration "Later".toList none] :=
  directives_eq_of_lines
    [("#title".toList, .title),
      ("1;Yuuka;02;Hello".toList,
        .character 0 "Yuuka".toList "02".toList (some "Hello".toList)),
      ("#place".toList, .place), ("#na;Later".toList, .narration "Later".toList none)]
    (by decide +kernel) (by decide +kernel)

/-- The place is the last thing made of the unit, and the narration behind it changes nothing. -/
theorem kind_of_stage_chapterStart :
    ∃ unit reports, (Staging.scene {} context chapterStart).stage = (.ok unit, reports) ∧
      (directives chapterStart.script.toList).filterMap Directive.makes? = [.title, .place] ∧
      unit.kind = .place := by
  have hstage : ∃ unit reports,
      (Staging.scene {} context chapterStart).stage = (.ok unit, reports) := by
    have hdirectives := directives_chapterStart
    simp only [chapterStart] at hdirectives
    simp only [chapterStart, Scene.stage, Staging.scene, hdirectives]
    exact ⟨_, _, rfl⟩
  have hmade : (directives chapterStart.script.toList).filterMap Directive.makes? =
      [.title, .place] := by
    rw [directives_chapterStart]
    rfl
  obtain ⟨unit, reports, hstage⟩ := hstage
  have hkind := Scene.kind_of_stage hstage
  have hscript : directives (Staging.scene {} context chapterStart).row.script.toList =
      directives chapterStart.script.toList := rfl
  rw [hscript, hmade] at hkind
  exact ⟨unit, reports, hstage, hmade, hkind⟩

end Sample
end VisualNovel
