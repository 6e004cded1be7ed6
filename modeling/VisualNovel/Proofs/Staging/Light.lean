/-
# Who is lit

A character who talks is lit, and everybody else on stage at that moment is put in the dark.
Whatever follows the last speech of a row lights nobody by itself: a character who is called without
a word stands in the dark, and an effect leaves the light as it finds it.

But an effect may bring a character back from an earlier unit, and whoever is brought back comes
with the light of that unit. Nobody puts it out when the speech is over by then. So the one who
talked is lit, and beside that character those who were brought back after the speech with their
light on. The story at the end shows such a one.

The light in a slot is read beside the list of the cast, as the look of a slot is, and one equation
says what a directive does to it.
-/

import VisualNovel.Proofs.Staging.Outline

namespace VisualNovel

open Script

namespace Script

/-- Every number from one to five is that of a slot. -/
theorem Slot.exists_position_eq {number : UInt8} (hrange : 1 ≤ number ∧ number ≤ 5) :
    ∃ slot : Slot, slot.position = number := by
  simp only [UInt8.le_iff_toNat_le, UInt8.reduceToNat] at hrange
  refine ⟨⟨number.toNat - 1, by omega⟩, UInt8.toNat_inj.mp ?_⟩
  simp only [Slot.position, UInt8.toNat_ofNat']
  omega

namespace Directive

/-- The slot into which a directive calls a character who talks. -/
def speaksIn? : Directive → Option Slot
  | .character slot _ _ talk => if talk.visible?.isSome then some slot else none
  | _ => none

/-- Somebody who talks is called. -/
theorem eq_character_of_speaksIn? {slot : Slot} {directive : Directive}
    (hspeaks : directive.speaksIn? = some slot) :
    ∃ name face talk, directive = .character slot name face talk ∧ talk.visible?.isSome := by
  cases directive with
  | character called name face talk =>
    obtain ⟨htalk, hslot⟩ := Option.ite_none_right_eq_some.mp hspeaks
    cases hslot
    exact ⟨name, face, talk, rfl, htalk⟩
  | _ => cases hspeaks

end Directive

theorem mem_slots_iff {slot : Slot} {directives : List Directive} :
    slot ∈ slots directives ↔ ∃ directive ∈ directives, directive.slot? = some slot := by
  simp [slots]

/-- One more directive adds at most the slot that it addresses. -/
theorem mem_slots_concat {slot : Slot} {done : List Directive} {directive : Directive} :
    slot ∈ slots (done ++ [directive]) ↔ slot ∈ slots done ∨ directive.slot? = some slot := by
  simp [mem_slots_iff, or_and_right, exists_or]

end Script

namespace Cast

variable {scene : Scene} {cast next : List StagedCharacter} {position : UInt8} {slot : Slot}

/-- Whether whoever stands in the slot is lit. -/
def light? (cast : List StagedCharacter) (position : UInt8) : Option Bool :=
  (occupant? cast position).map (·.highlighted)

/-- Whether whoever stood in the slot last in an earlier unit was lit. -/
def lastLight? (earlier : List StoryUnit) (count : Nat) (position : UInt8) : Option Bool :=
  (lastOccupant? earlier count position).map (·.highlighted)

theorem isSome_light?_iff : (light? cast position).isSome ↔ position ∈ positions cast := by
  simp [light?, occupant?, positions]

/-- Everybody stands in one of the slots, with their own light. -/
theorem exists_slot_light? (hplaced : WellPlaced cast) {character : StagedCharacter}
    (hmem : character ∈ cast) :
    ∃ slot : Slot, slot.position = character.position ∧
      light? cast slot.position = some character.highlighted := by
  have hrange := hplaced.inRange character.position (List.mem_map.mpr ⟨character, hmem, rfl⟩)
  obtain ⟨slot, hposition⟩ := Slot.exists_position_eq hrange
  refine ⟨slot, hposition, ?_⟩
  rw [hposition, light?, hplaced.occupant?_eq_some_iff.mpr ⟨hmem, rfl⟩]
  rfl

/-- A change in a slot changes the light there alone. -/
theorem light?_modifyAt {change : StagedCharacter → StagedCharacter} {other : UInt8}
    (hstays : ∀ character, character.position = position → (change character).position = position) :
    light? (modifyAt position change cast) other =
      if other = position then
        (occupant? cast position).map fun before => (change before).highlighted
      else light? cast other := by
  rw [light?, occupant?_modifyAt hstays]
  split
  · rw [Option.map_map]
    rfl
  · rfl

/-- Whoever is called brings a light of their own, whoever stood there before. -/
theorem light?_place {character : StagedCharacter} {other : UInt8} :
    light? (place cast character) other =
      if other = character.position then some character.highlighted else light? cast other := by
  unfold place
  by_cases hheld : holds cast character.position = true
  · have hstays (before : StagedCharacter) (_ : before.position = character.position) :
        ({ character with effects := before.effects } : StagedCharacter).position =
          character.position := rfl
    rw [if_pos hheld, light?_modifyAt hstays]
    rw [holds_iff_mem_positions, ← isSome_light?_iff, light?, Option.isSome_map] at hheld
    obtain ⟨before, hbefore⟩ := Option.isSome_iff_exists.mp hheld
    rw [hbefore]
    rfl
  · rw [if_neg hheld, light?, occupant?_concat]
    rw [holds_iff_mem_positions, ← isSome_light?_iff, Option.not_isSome_iff_eq_none] at hheld
    by_cases hother : other = character.position
    · subst hother
      have hnobody : occupant? cast character.position = none := Option.map_eq_none_iff.mp hheld
      simp [hnobody]
    · simp [light?, hother, Ne.symm hother]

/-- Being animated changes no light. -/
theorem light?_modifyAt_effects {effect : CharacterEffect} {other : UInt8} :
    light? (modifyAt position
        (fun character => { character with effects := character.effects ++ [effect] }) cast) other =
      light? cast other := by
  have hstays (character : StagedCharacter) (hposition : character.position = position) :
      ({ character with effects := character.effects ++ [effect] } : StagedCharacter).position =
        position := hposition
  rw [light?_modifyAt hstays]
  split
  · next hhere => rw [hhere, light?]
  · rfl

/-- Everybody outside the slot is put in the dark. -/
theorem light?_dimOthers {other : UInt8} :
    light? (dimOthers position cast) other =
      if other = position then light? cast other else (light? cast other).map fun _ => false := by
  have hkeeps (character : StagedCharacter) :
      (if character.position = position then character
        else { character with highlighted := false }).position = character.position := by
    split <;> rfl
  rw [light?, dimOthers, occupant?_map hkeeps, light?]
  cases hfound : occupant? cast other with
  | none => simp
  | some character =>
    have hposition : character.position = other := by
      simpa using List.find?_some hfound
    by_cases hother : other = position <;> simp [hposition, hother]

/-- Whoever is brought back comes with the light of the unit before. -/
theorem light?_of_occupied? (hnext : occupied? scene cast position = some next) (other : UInt8) :
    light? next other =
      if other = position then
        (light? cast position).or (lastLight? scene.earlier scene.index position)
      else light? cast other := by
  unfold occupied? at hnext
  by_cases hheld : holds cast position = true
  · rw [if_pos hheld] at hnext
    cases hnext
    rw [holds_iff_mem_positions, ← isSome_light?_iff] at hheld
    split
    · next hhere => rw [hhere, Option.or_of_isSome hheld]
    · rfl
  · rw [if_neg hheld] at hnext
    rw [holds_iff_mem_positions, ← isSome_light?_iff, Option.not_isSome_iff_eq_none] at hheld
    obtain ⟨last, hlast, rfl⟩ := Option.map_eq_some_iff.mp hnext
    have hposition : last.atRest.position = position := by
      rw [StagedCharacter.atRest, position_lastOccupant? hlast]
    rw [light?, occupant?_concat, hposition]
    by_cases hother : other = position
    · subst hother
      have hnobody : occupant? cast other = none := Option.map_eq_none_iff.mp hheld
      simp [hnobody, hheld, lastLight?, hlast, StagedCharacter.atRest]
    · simp [light?, hother, Ne.symm hother]

/-- Everything that a directive does to the light in a slot. A speech lights its own slot and no
other. A call without a word brings somebody into the slot who is not lit. An effect looks for
somebody in the slot and, where nobody stands, brings back the light as well. -/
theorem light?_of_after {directive : Directive} (hnext : after scene cast directive = .ok next)
    (slot : Slot) :
    light? next slot.position =
      match directive.speaksIn? with
      | some speaker =>
        if slot = speaker then some true else (light? cast slot.position).map fun _ => false
      | none =>
        if (directive.callIn? slot).isSome then some false
        else if directive.slot? = some slot then
          (light? cast slot.position).or (lastLight? scene.earlier scene.index slot.position)
        else light? cast slot.position := by
  cases directive with
  | characterEffect animated kind name async =>
    simp only [after, animate] at hnext
    split at hnext
    · cases hnext
    · rename_i middle hmiddle
      cases hnext
      rw [light?_modifyAt_effects, light?_of_occupied? hmiddle]
      by_cases hslot : slot = animated
      · subst hslot
        simp [Directive.speaksIn?, Directive.callIn?, Directive.slot?]
      · simp [Directive.speaksIn?, Directive.callIn?, Directive.slot?, hslot, Ne.symm hslot]
  | character called name face talk =>
    simp only [after, call] at hnext
    cases hcalled : Cast.called scene (String.ofList (Parameter.text (some name))) with
    | error fault =>
      rw [hcalled] at hnext
      cases hnext
    | ok pair =>
      rw [hcalled] at hnext
      cases hnext
      by_cases htalk : talk.visible?.isSome = true
      · by_cases hslot : slot = called <;>
          simp [Directive.speaksIn?, htalk, light?_dimOthers, light?_place, hslot]
      · by_cases hslot : slot = called
        · simp [Directive.speaksIn?, Directive.callIn?, htalk, light?_place, hslot]
        · simp [Directive.speaksIn?, Directive.callIn?, Directive.slot?, htalk, light?_place,
            hslot, Ne.symm hslot]
  | _ =>
    cases hnext
    rfl

/-- What is left of the light in a slot after directives of which none is a speech: whoever is
called stands in the dark, and whoever is brought back comes with the light of the unit before. -/
def lightLeft? (scene : Scene) (light : Option Bool) (directives : List Directive) (slot : Slot) :
    Option Bool :=
  if (lastCall? slot directives).isSome then some false
  else if slot ∈ slots directives then light.or (lastLight? scene.earlier scene.index slot.position)
  else light

theorem light?_of_applyAll {directives : List Directive} {unit last : StoryUnit}
    {reports : List StagingError} (hrun : scene.applyAll unit directives = (.ok last, reports))
    (hsilent : ∀ directive ∈ directives, directive.speaksIn? = none) (slot : Slot) :
    light? last.cast slot.position =
      lightLeft? scene (light? unit.cast slot.position) directives slot := by
  refine Scene.applyAll_induction
    (motive := fun done next _ => (∀ directive ∈ done, directive.speaksIn? = none) →
      light? next.cast slot.position =
        lightLeft? scene (light? unit.cast slot.position) done slot)
    (fun _ => rfl) ?_ hrun hsilent
  intro done middle directive after earlier later hmiddle happly hsilent
  obtain ⟨cast, hcast, rfl, _⟩ := Scene.apply_eq_ok_iff.mp happly
  have hbefore := hmiddle fun other hother => hsilent other (List.mem_append_left _ hother)
  have hlight := light?_of_after hcast slot
  rw [hsilent directive (List.mem_append_right _ (List.mem_singleton_self _))] at hlight
  change light? cast slot.position = _
  simp only [hlight, hbefore, lightLeft?, lastCall?_concat, mem_slots_concat, Option.isSome_or,
    Bool.or_eq_true]
  by_cases hcall : (directive.callIn? slot).isSome = true
  · simp [hcall]
  · by_cases hcalled : (lastCall? slot done).isSome = true
    · by_cases haddressed : directive.slot? = some slot <;> simp [hcall, hcalled, haddressed]
    · by_cases haddressed : directive.slot? = some slot
      · by_cases hmem : slot ∈ slots done
        · simp [hcall, hcalled, haddressed, hmem, Option.or_assoc]
        · simp [hcall, hcalled, haddressed, hmem]
      · simp [hcall, hcalled, haddressed]

/-- Where somebody is lit already, nothing is left to do at the end of a row. -/
theorem lit_eq_self (hlight : light? cast position = some true) : lit cast = cast := by
  obtain ⟨character, hfound, hlit⟩ := Option.map_eq_some_iff.mp hlight
  exact if_pos (List.any_eq_true.mpr ⟨character, List.mem_of_find?_eq_some hfound, hlit⟩)

end Cast

/-- The script has a last speech, into the slot, and nobody is called there afterwards. -/
structure Script.SpeaksLast (script before : List Directive) (slot : Slot)
    (after : List Directive) : Prop where
  split : ∃ speech, script = before ++ speech :: after ∧ speech.speaksIn? = some slot
  silent : ∀ directive ∈ after, directive.speaksIn? = none
  stays : lastCall? slot after = none

namespace Cast

/-- The light in a slot when a row with a last speech is over, as the script of the row and the
units before it tell. -/
def lightAfterSpeech? (earlier : List StoryUnit) (count : Nat) (before after : List Directive)
    (speaker slot : Slot) : Option Bool :=
  if slot = speaker then some true
  else if (lastCall? slot after).isSome then some false
  else if slot ∈ slots before then some false
  else if slot ∈ slots after then lastLight? earlier count slot.position
  else none

/-- Whoever stands in the slot is brought back after the speech, from an earlier unit that shows the
character lit, and is not called anew. -/
structure BroughtBackLit (earlier : List StoryUnit) (before after : List Directive)
    (slot : Slot) : Prop where
  absent : slot ∉ slots before
  animated : slot ∈ slots after
  notCalled : lastCall? slot after = none
  lit : lastLight? earlier earlier.length slot.position = some true

theorem lightAfterSpeech?_eq_true_iff {earlier : List StoryUnit} {before after : List Directive}
    {speaker slot : Slot} :
    lightAfterSpeech? earlier earlier.length before after speaker slot = some true ↔
      slot = speaker ∨ BroughtBackLit earlier before after slot := by
  unfold lightAfterSpeech?
  constructor
  · intro hlit
    split_ifs at hlit with hspeaker hcalled hbefore hafter
    · exact .inl hspeaker
    · cases hlit
    · cases hlit
    · exact .inr ⟨hbefore, hafter, Option.not_isSome_iff_eq_none.mp hcalled, hlit⟩
  · rintro (rfl | ⟨hbefore, hafter, hcalled, hlit⟩)
    · rw [if_pos rfl]
    · simp [hbefore, hafter, hcalled, hlit]

end Cast

namespace Scene

open Cast

variable {scene : Scene} {unit : StoryUnit} {reports : List StagingError}
  {before after : List Directive} {slot : Slot}

/-- The light in every slot when the directives of a row with a last speech are applied. -/
theorem light?_of_speaksLast {directives : List Directive} {last : StoryUnit}
    (hspeech : SpeaksLast directives before slot after)
    (hrun : scene.applyAll scene.opening directives = (.ok last, reports)) (other : Slot) :
    light? last.cast other.position =
      lightAfterSpeech? scene.earlier scene.index before after slot other := by
  obtain ⟨⟨speech, rfl, hspeaks⟩, hsilent, hstays⟩ := hspeech
  obtain ⟨name, face, talk, rfl, _⟩ := Directive.eq_character_of_speaksIn? hspeaks
  obtain ⟨middle, _, _, hbefore, hrest, _⟩ := applyAll_append_eq_ok_iff.mp hrun
  obtain ⟨spoken, _, _, happly, hafter, _⟩ := applyAll_cons_eq_ok_iff.mp hrest
  obtain ⟨cast, hcast, rfl, _⟩ := apply_eq_ok_iff.mp happly
  have hspoken := light?_of_after hcast other
  rw [hspeaks] at hspoken
  -- Whom the speech puts in the dark is told by the slots addressed before it.
  have hstage : (light? middle.cast other.position).isSome ↔ other ∈ slots before := by
    rw [isSome_light?_iff, positions_of_applyAll hbefore,
      List.mem_map_of_injective Slot.position_injective]
  rw [light?_of_applyAll hafter hsilent, lightAfterSpeech?]
  change lightLeft? scene (light? cast other.position) after other = _
  rw [hspoken, lightLeft?]
  by_cases hother : other = slot
  · subst hother
    simp [hstays]
  · by_cases hmem : other ∈ slots before
    · obtain ⟨light, hlight⟩ := Option.isSome_iff_exists.mp (hstage.mpr hmem)
      simp [hother, hmem, hlight]
    · have hnobody := Option.not_isSome_iff_eq_none.mp (mt hstage.mp hmem)
      simp [hother, hmem, hnobody]

/-- The light in every slot of the unit of a row with a last speech. -/
theorem light?_of_stage (hstage : scene.stage = (.ok unit, reports))
    (hspeech : SpeaksLast (Script.directives scene.row.script.toList) before slot after)
    (other : Slot) :
    light? unit.cast other.position =
      lightAfterSpeech? scene.earlier scene.index before after slot other := by
  obtain ⟨last, hrun, rfl⟩ := stage_eq_ok_iff.mp hstage
  have hspeaker := light?_of_speaksLast hspeech hrun slot
  rw [lightAfterSpeech?, if_pos rfl] at hspeaker
  change light? (Cast.lit last.cast) other.position = _
  rw [lit_eq_self hspeaker]
  exact light?_of_speaksLast hspeech hrun other

end Scene

namespace Story

variable {context : StagingContext} {rows : List Row} {story : Story}

/-- In the unit of a row with a last speech the one who talked is lit. Anybody else is lit exactly
if the character was brought back after the speech from a unit that shows the character lit. -/
theorem lit_of_speaksLast (hstory : ofRows context rows = .ok story) {index : Nat} {row : Row}
    (hrow : rows[index]? = some row) {before after : List Directive} {slot : Slot}
    (hspeech : SpeaksLast (Script.directives row.script.toList) before slot after) :
    ∃ unit, story.units[index]? = some unit ∧
      (∃ character ∈ unit.cast, character.position = slot.position ∧
        character.highlighted = true) ∧
      ∀ character ∈ unit.cast, character.highlighted = true ↔
        character.position = slot.position ∨
          ∃ other : Slot, character.position = other.position ∧
            Cast.BroughtBackLit (story.units.take index) before after other := by
  obtain ⟨unit, _, _, hunit, _⟩ := exists_stage_of_row hstory hrow
  obtain ⟨own, staging, reports, hown, _, hunits, hlength, hstage⟩ :=
    exists_stage_of_getElem? hstory hunit
  cases hrow.symm.trans hown
  have hplaced := (Scene.wellFormed_of_stage hstage).placed
  have hlight := Scene.light?_of_stage hstage hspeech
  refine ⟨unit, hunit, ?_, ?_⟩
  · have hspeaker := hlight slot
    rw [Cast.lightAfterSpeech?, if_pos rfl] at hspeaker
    obtain ⟨character, hfound, hlit⟩ := Option.map_eq_some_iff.mp hspeaker
    obtain ⟨hmem, hposition⟩ := hplaced.occupant?_eq_some_iff.mp hfound
    exact ⟨character, hmem, hposition, hlit⟩
  · intro character hmem
    obtain ⟨other, hposition, hown⟩ := Cast.exists_slot_light? hplaced hmem
    have hlit :
        character.highlighted = true ↔ Cast.light? unit.cast other.position = some true := by
      rw [hown, Option.some_inj]
    have hspoke : character.position = slot.position ↔ other = slot := by
      rw [← hposition, Slot.position_inj]
    have hbrought : (∃ same : Slot, character.position = same.position ∧
        Cast.BroughtBackLit (story.units.take index) before after same) ↔
          Cast.BroughtBackLit (story.units.take index) before after other := by
      constructor
      · rintro ⟨same, hsame, hlit⟩
        rw [← hposition, Slot.position_inj] at hsame
        exact hsame ▸ hlit
      · exact fun hlit => ⟨other, hposition.symm, hlit⟩
    have hearlier : (staging.scene context row).earlier = story.units.take index := hunits
    have hnumber : (staging.scene context row).index = (story.units.take index).length :=
      congrArg List.length hunits
    rw [hlit, hspoke, hbrought, hlight other, hearlier, hnumber]
    exact Cast.lightAfterSpeech?_eq_true_iff

end Story

namespace Sample

/-- A row in which the first character talks. The effect behind the speech brings back the
second. -/
def interruption : Row := { script := "1;Yuuka;02;Hello\n#2;em;Sweat" }

/-- The row behind one that calls the second character. -/
def interrupted : List Row := [{ script := "2;Noa;05" }, interruption]

theorem directives_call :
    directives "2;Noa;05".toList = [.character 1 "Noa".toList "05".toList none] :=
  directives_eq_of_lines [("2;Noa;05".toList, .character 1 "Noa".toList "05".toList none)]
    (by decide +kernel) (by decide +kernel)

theorem directives_interruption :
    directives interruption.script.toList =
      [.character 0 "Yuuka".toList "02".toList (some "Hello".toList),
       .characterEffect 1 "em".toList "Sweat".toList none] :=
  directives_eq_of_lines
    [("1;Yuuka;02;Hello".toList,
        .character 0 "Yuuka".toList "02".toList (some "Hello".toList)),
      ("#2;em;Sweat".toList, .characterEffect 1 "em".toList "Sweat".toList none)]
    (by decide +kernel) (by decide +kernel)

/-- The two rows make a story, and in its second unit both characters are lit. -/
theorem ofRows_interrupted :
    ∃ story, Story.ofRows context interrupted = .ok story ∧
      story.units.map (·.cast.map fun character => (character.position, character.highlighted)) =
        [[(2, true)], [(1, true), (2, true)]] := by
  have hinterruption := directives_interruption
  simp only [interruption] at hinterruption
  simp only [Story.ofRows, interrupted, interruption, Staging.run, Staging.push, Scene.stage,
    Staging.scene, directives_call, hinterruption]
  exact ⟨_, rfl, rfl⟩

/-- The speech of the row is the last, and the character in its slot stays. -/
theorem speaksLast_interruption :
    SpeaksLast (directives interruption.script.toList) [] 0
      [.characterEffect 1 "em".toList "Sweat".toList none] where
  split := ⟨_, directives_interruption, rfl⟩
  silent := by
    intro directive hmem
    cases List.mem_singleton.mp hmem
    rfl
  stays := rfl

/-- The first character is lit as the one who talks, the second as one who is brought back. -/
theorem lit_of_speaksLast_interruption :
    ∃ story unit, Story.ofRows context interrupted = .ok story ∧
      story.units[1]? = some unit ∧
      unit.cast.map (·.highlighted) = [true, true] ∧
      ∀ character ∈ unit.cast, character.highlighted = true ↔
        character.position = 1 ∨
          ∃ other : Slot, character.position = other.position ∧
            Cast.BroughtBackLit (story.units.take 1) []
              [.characterEffect 1 "em".toList "Sweat".toList none] other := by
  obtain ⟨story, hstory, hcasts⟩ := ofRows_interrupted
  have hrow : interrupted[1]? = some interruption := rfl
  obtain ⟨unit, hunit, _, hlit⟩ := Story.lit_of_speaksLast hstory hrow speaksLast_interruption
  refine ⟨story, unit, hstory, hunit, ?_, hlit⟩
  have hcast := congrArg (fun units => units[1]?) hcasts
  simp only [List.getElem?_map, hunit, Option.map_some, List.getElem?_cons_succ,
    List.getElem?_cons_zero, Option.some_inj] at hcast
  have hlights := congrArg (List.map Prod.snd) hcast
  rwa [List.map_map] at hlights

/-- It is not the one who talked alone who is lit, whatever a script does beside the last speech. -/
theorem not_onlySpeaker_lit :
    ¬ ∀ (context : StagingContext) (rows : List Row) (story : Story),
      Story.ofRows context rows = .ok story →
      ∀ (index : Nat) (row : Row) (unit : StoryUnit) (before after : List Directive) (slot : Slot),
        rows[index]? = some row → story.units[index]? = some unit →
        SpeaksLast (directives row.script.toList) before slot after →
        ∀ character ∈ unit.cast, character.highlighted = true →
          character.position = slot.position := by
  intro honly
  obtain ⟨story, hstory, hcasts⟩ := ofRows_interrupted
  have hcast := congrArg (fun units => units[1]?) hcasts
  simp only [List.getElem?_map, List.getElem?_cons_succ, List.getElem?_cons_zero,
    Option.map_eq_some_iff] at hcast
  obtain ⟨unit, hunit, hcast⟩ := hcast
  have hmem : ((2 : UInt8), true) ∈
      unit.cast.map fun character => (character.position, character.highlighted) := by
    rw [hcast]
    exact List.mem_cons_of_mem _ (List.mem_singleton_self _)
  obtain ⟨character, hcharacter, hpair⟩ := List.mem_map.mp hmem
  obtain ⟨hposition, hlit⟩ := Prod.mk.inj hpair
  have hspeaker := honly context interrupted story hstory 1 interruption unit [] _ 0 rfl hunit
    speaksLast_interruption character hcharacter hlit
  rw [hposition] at hspeaker
  exact absurd hspeaker (by decide)

end Sample
end VisualNovel
