/-
# What a row says whatever came before it

The units before a row are looked at for one purpose only: to bring a character back. So wherever a
row stands, in whatever story, it makes the same unit, except for who the characters are that its
script animates without calling them.

The unit of a row is read here in two parts. What is not its cast is what the directives of the row
make of its columns with nobody on stage. Of the cast, the slots and the effects are read off the
script, and so is the appearance in a slot into which the script calls a character. Both readings
know the row alone, and two units of one row agree because both are what is read.
-/

import VisualNovel.Proofs.Staging.History

namespace VisualNovel

open Script

namespace Script

/-- The slots that the script addresses, in the order in which it does so first. -/
def slots (directives : List Directive) : List Slot :=
  (directives.filterMap Directive.slot?).eraseDups

/-- One more directive addresses at most one more slot. -/
theorem slots_concat (done : List Directive) (directive : Directive) :
    slots (done ++ [directive]) =
      match directive.slot? with
      | none => slots done
      | some slot => if (slots done).contains slot then slots done else slots done ++ [slot] := by
  unfold slots
  rw [List.filterMap_append, List.eraseDups_append]
  generalize done.filterMap Directive.slot? = before
  cases hslot : directive.slot? with
  | none => simp [hslot]
  | some slot =>
    by_cases hmem : slot ∈ before <;> simp [hslot, hmem, List.removeAll, List.eraseDups_cons]

/-- A call into the slot is not forgotten. -/
theorem exists_lastCall?_of_mem {slot : Slot} {name face : List Char} {talk : Parameter}
    {directives : List Directive} (hcall : .character slot name face talk ∈ directives) :
    ∃ call, lastCall? slot directives = some call := by
  rw [← Option.ne_none_iff_exists']
  intro hnone
  have hcalled := lastCall?_eq_none_iff.mp hnone _ hcall
  simp [Directive.callIn?] at hcalled

end Script

namespace Cast

variable {scene : Scene} {before done : List Directive} {cast next : List StagedCharacter}

theorem positions_place (character : StagedCharacter) :
    positions (place cast character) =
      if holds cast character.position then positions cast
      else positions cast ++ [character.position] := by
  unfold place
  by_cases hheld : holds cast character.position = true
  · rw [if_pos hheld, if_pos hheld]
    exact positions_modifyAt fun _ _ => rfl
  · rw [if_neg hheld, if_neg hheld]
    simp [positions]

theorem positions_occupied? {position : UInt8} (hnext : occupied? scene cast position = some next) :
    positions next =
      if holds cast position then positions cast else positions cast ++ [position] := by
  unfold occupied? at hnext
  by_cases hheld : holds cast position = true
  · rw [if_pos hheld] at hnext
    cases hnext
    rw [if_pos hheld]
  · rw [if_neg hheld] at hnext
    obtain ⟨last, hlast, rfl⟩ := Option.map_eq_some_iff.mp hnext
    rw [if_neg hheld, ← position_lastOccupant? hlast]
    simp [positions, StagedCharacter.atRest]

/-- Whoever steps into a free slot stands behind the others, and nobody else moves. -/
theorem positions_of_after {directive : Directive} (hnext : after scene cast directive = .ok next) :
    positions next =
      match directive.slot? with
      | none => positions cast
      | some slot =>
        if holds cast slot.position then positions cast else positions cast ++ [slot.position] := by
  cases directive with
  | characterEffect slot kind name async =>
    simp only [after, animate] at hnext
    split at hnext
    · cases hnext
    · rename_i middle hmiddle
      cases hnext
      refine (positions_modifyAt ?_).trans (positions_occupied? hmiddle)
      exact fun _ hposition => hposition
  | character slot name face talk =>
    simp only [after, call] at hnext
    cases hcalled : called scene (String.ofList (Parameter.text (some name))) with
    | error fault =>
      rw [hcalled] at hnext
      cases hnext
    | ok pair =>
      rw [hcalled] at hnext
      cases hnext
      split
      · rw [positions_dimOthers, positions_place]
        rfl
      · rw [positions_place]
        rfl
  | _ =>
    cases hnext
    rfl

/-- The characters stand in the order in which the script addressed their slots first. -/
theorem positions_of_applyAll {directives : List Directive} {unit : StoryUnit}
    {reports : List StagingError}
    (hrun : scene.applyAll scene.opening directives = (.ok unit, reports)) :
    positions unit.cast = (slots directives).map Slot.position := by
  refine Scene.applyAll_induction
    (motive := fun done next _ => positions next.cast = (slots done).map Slot.position)
    rfl ?_ hrun
  intro done middle directive after earlier later hmiddle happly
  obtain ⟨cast, hcast, rfl, _⟩ := Scene.apply_eq_ok_iff.mp happly
  change positions cast = _
  rw [positions_of_after hcast, slots_concat, hmiddle]
  cases directive.slot? with
  | none => rfl
  | some slot =>
    have hsame : holds middle.cast slot.position = true ↔ slot ∈ slots done := by
      rw [holds_iff_mem_positions, hmiddle,
        List.mem_map_of_injective Slot.position_injective]
    by_cases hmem : slot ∈ slots done <;> simp [hsame, hmem]

/-- The slots and the effects of a cast in their order, and nothing of who stands there. -/
def outline (cast : List StagedCharacter) : List (UInt8 × List CharacterEffect) :=
  cast.map fun character => (character.position, character.effects)

/-- Where slots are not shared, the effects in the outline are those that are seen in the slots. -/
theorem WellPlaced.outline_eq (hplaced : WellPlaced cast) :
    outline cast =
      (positions cast).map fun position =>
        (position, ((seen? cast position).map (·.2)).getD []) := by
  rw [positions, List.map_map]
  refine List.map_congr_left fun character hmem => ?_
  simp [hplaced.seen?_eq_some hmem]

/-- The outline of a cast that follows its script is read off the script of the row. -/
theorem Follows.outline_eq (hfollows : Follows scene before done cast) (hplaced : WellPlaced cast)
    (horder : positions cast = (slots done).map Slot.position) :
    outline cast = (slots done).map fun slot => (slot.position, effectsIn slot done) := by
  rw [hplaced.outline_eq, horder, List.map_map]
  refine List.map_congr_left fun slot _ => ?_
  simp [hfollows.effects slot]

/-- Whoever the script of the row itself calls has the appearance that the last call settles. -/
theorem Follows.appearance_eq (hfollows : Follows scene before done cast)
    (hplaced : WellPlaced cast) {character : StagedCharacter} {slot : Slot}
    {call : List Char × List Char} (hmem : character ∈ cast)
    (hposition : character.position = slot.position) (hcall : lastCall? slot done = some call) :
    scene.appearance? call.1 call.2 = some character.appearance := by
  have hseen := hplaced.seen?_eq_some hmem
  have hsettled := hfollows.settled slot
  rw [hposition] at hseen
  rw [lastCall?_append, hcall, hseen] at hsettled
  cases hsettled with
  | some hsettles => exact hsettles

end Cast

/-- The unit with nobody on stage. -/
def StoryUnit.castless (unit : StoryUnit) : StoryUnit := { unit with cast := [] }

/-- The scene of the row as the only one of a story. -/
def StagingContext.alone (context : StagingContext) (row : Row) : Scene :=
  { context with row, index := 0, earlier := [] }

namespace Scene

variable {scene : Scene}

/-- What the row makes with nobody on stage. -/
def castless (scene : Scene) : StoryUnit :=
  (directives scene.row.script.toList).foldl
    (fun unit directive => scene.applied unit [] directive) scene.opening

/-- What a directive makes of a unit beside its cast depends neither on the cast nor on the units
before. -/
theorem castless_applied (unit : StoryUnit) (cast : List StagedCharacter) (directive : Directive) :
    (scene.applied unit cast directive).castless =
      (scene.alone scene.row).applied unit.castless [] directive := rfl

/-- Beside its cast, the unit of a row is what the row makes alone. -/
theorem castless_of_stage {unit : StoryUnit} {reports : List StagingError}
    (hstage : scene.stage = (.ok unit, reports)) :
    unit.castless = (scene.alone scene.row).castless := by
  obtain ⟨last, hrun, rfl⟩ := stage_eq_ok_iff.mp hstage
  change last.castless = _
  refine applyAll_induction
    (motive := fun done next _ => next.castless = done.foldl
      (fun unit directive => (scene.alone scene.row).applied unit [] directive) scene.opening)
    rfl ?_ hrun
  intro done before directive after earlier later hbefore happly
  obtain ⟨cast, _, rfl, _⟩ := apply_eq_ok_iff.mp happly
  rw [castless_applied, hbefore, List.foldl_concat]

end Scene

namespace StoryUnit

/-- The unit as far as the row tells it without any other row. -/
structure ReadsOff (context : StagingContext) (row : Row) (unit : StoryUnit) : Prop where
  castless : unit.castless = (context.alone row).castless
  outline : Cast.outline unit.cast =
    (slots (directives row.script.toList)).map fun slot =>
      (slot.position, effectsIn slot (directives row.script.toList))
  /-- Whoever the script calls has the appearance that the last call into the slot settles. -/
  called : ∀ (slot : Slot) (call : List Char × List Char),
    lastCall? slot (directives row.script.toList) = some call →
    ∀ character ∈ unit.cast, character.position = slot.position →
      context.appearance? call.1 call.2 = some character.appearance

/-- The units are the same, except for who the characters are that the script does not call: what is
not their casts, the slots with their effects in their order, and the appearance of whoever stands
in a slot into which the script calls a character. -/
structure Alike (script : List Directive) (unit twin : StoryUnit) : Prop where
  castless : unit.castless = twin.castless
  outline : Cast.outline unit.cast = Cast.outline twin.cast
  called : ∀ (slot : Slot) (name face : List Char) (talk : Parameter),
    .character slot name face talk ∈ script →
    ∀ character ∈ unit.cast, character.position = slot.position →
    ∀ other ∈ twin.cast, other.position = slot.position →
      character.appearance = other.appearance

/-- What two units have of one row is alike. -/
theorem ReadsOff.alike {context : StagingContext} {row : Row} {unit twin : StoryUnit}
    (hunit : unit.ReadsOff context row) (htwin : twin.ReadsOff context row) :
    unit.Alike (directives row.script.toList) twin where
  castless := hunit.castless.trans htwin.castless.symm
  outline := hunit.outline.trans htwin.outline.symm
  called slot name face talk hcalled character hmem hposition other hother hplace := by
    obtain ⟨call, hcall⟩ := exists_lastCall?_of_mem hcalled
    have hshown := hunit.called slot call hcall character hmem hposition
    rw [htwin.called slot call hcall other hother hplace] at hshown
    exact (Option.some.inj hshown).symm

end StoryUnit

/-- A unit is read off its row, if the units before it remember some script. -/
theorem Staging.readsOff_of_stage {context : StagingContext} {staging : Staging} {row : Row}
    {before : List Directive} {unit : StoryUnit} {reports : List StagingError}
    (hremembers : context.Remembers before staging.units)
    (hstage : (staging.scene context row).stage = (.ok unit, reports)) :
    unit.ReadsOff context row := by
  have hfollows := follows_of_stage hremembers hstage
  have hplaced := (Scene.wellFormed_of_stage hstage).placed
  have hcastless := Scene.castless_of_stage hstage
  constructor
  · exact hcastless
  · refine hfollows.outline_eq hplaced ?_
    obtain ⟨last, hrun, rfl⟩ := Scene.stage_eq_ok_iff.mp hstage
    exact Cast.positions_lit.trans (Cast.positions_of_applyAll hrun)
  · intro slot call hcall character hmem hposition
    exact hfollows.appearance_eq hplaced hmem hposition hcall

namespace Story

variable {context : StagingContext} {rows others : List Row} {story other : Story}

/-- In every story in which a row stands, its unit is read off the row. -/
theorem readsOff_of_getElem? {index : Nat} {row : Row} (hstory : ofRows context rows = .ok story)
    (hrow : rows[index]? = some row) :
    ∃ unit, story.units[index]? = some unit ∧ unit.ReadsOff context row := by
  obtain ⟨unit, before, reports, hunit, hrun, hstage⟩ := exists_stage_of_row hstory hrow
  exact ⟨unit, hunit, Staging.readsOff_of_stage (Staging.remembers_of_run hrun) hstage⟩

/-- Wherever one row stands in two stories, its units are alike: the rows before only show in who
the characters are that the row animates without calling them. -/
theorem alike_of_same_row {index place : Nat} {row : Row} (hstory : ofRows context rows = .ok story)
    (hother : ofRows context others = .ok other) (hrow : rows[index]? = some row)
    (hplace : others[place]? = some row) :
    ∃ unit twin, story.units[index]? = some unit ∧ other.units[place]? = some twin ∧
      unit.Alike (directives row.script.toList) twin := by
  obtain ⟨unit, hunit, hreads⟩ := readsOff_of_getElem? hstory hrow
  obtain ⟨twin, htwin, hreadsTwin⟩ := readsOff_of_getElem? hother hplace
  exact ⟨unit, twin, hunit, htwin, hreads.alike hreadsTwin⟩

end Story

namespace Sample

/-- A row that animates whoever stands in the first slot and calls a character into the second. -/
def entrance : Row := { group := 3, script := "#1;a;hop\n2;Noa;05" }

/-- The row behind one that calls the first character into the first slot. -/
def afterYuuka : List Row := [{ script := "1;Yuuka;02\n2;Noa;05\n#1;em;Sweat" }, entrance]

/-- The row behind two others, the first of which calls the second character into that slot. -/
def afterNoa : List Row := [{ script := "1;Noa;05" }, { script := "#1;a;hop" }, entrance]

theorem directives_entrance :
    directives "#1;a;hop\n2;Noa;05".toList =
      [.characterEffect 0 "a".toList "hop".toList none,
       .character 1 "Noa".toList "05".toList none] :=
  directives_eq_of_lines
    [("#1;a;hop".toList, .characterEffect 0 "a".toList "hop".toList none),
      ("2;Noa;05".toList, .character 1 "Noa".toList "05".toList none)]
    (by decide +kernel) (by decide +kernel)

theorem directives_noa :
    directives "1;Noa;05".toList = [.character 0 "Noa".toList "05".toList none] :=
  directives_eq_of_lines [("1;Noa;05".toList, .character 0 "Noa".toList "05".toList none)]
    (by decide +kernel) (by decide +kernel)

/-- The row brings back another character in each of the stories, and its units are alike. -/
theorem alike_of_same_row_entrance :
    ∃ story other, Story.ofRows context afterYuuka = .ok story ∧
      Story.ofRows context afterNoa = .ok other ∧
      story.units.map (·.cast.map (·.id)) = [[1001, 1002], [1001, 1002]] ∧
      other.units.map (·.cast.map (·.id)) = [[1002], [1002], [1002, 1002]] ∧
      afterYuuka[1]? = some entrance ∧ afterNoa[2]? = some entrance ∧
      ∃ unit twin, story.units[1]? = some unit ∧ other.units[2]? = some twin ∧
        unit.Alike (directives entrance.script.toList) twin := by
  have hyuuka : ∃ story, Story.ofRows context afterYuuka = .ok story ∧
      story.units.map (·.cast.map (·.id)) = [[1001, 1002], [1001, 1002]] := by
    simp only [Story.ofRows, afterYuuka, entrance, Staging.run, Staging.push, Scene.stage,
      Staging.scene, directives_first, directives_entrance]
    exact ⟨_, rfl, rfl⟩
  have hnoa : ∃ other, Story.ofRows context afterNoa = .ok other ∧
      other.units.map (·.cast.map (·.id)) = [[1002], [1002], [1002, 1002]] := by
    simp only [Story.ofRows, afterNoa, entrance, Staging.run, Staging.push, Scene.stage,
      Staging.scene, directives_noa, directives_second, directives_entrance]
    exact ⟨_, rfl, rfl⟩
  obtain ⟨story, hstory, hids⟩ := hyuuka
  obtain ⟨other, hother, hotherIds⟩ := hnoa
  have hrow : afterYuuka[1]? = some entrance := rfl
  have hplace : afterNoa[2]? = some entrance := rfl
  exact ⟨story, other, hstory, hother, hids, hotherIds, hrow, hplace,
    Story.alike_of_same_row hstory hother hrow hplace⟩

end Sample
end VisualNovel
