/-
# When a story cannot be staged

Whether a story can be staged is decided by its script and the tables of names and characters, and
by nothing else: not by the settings, not by the other columns or tables, not by anything the script
says beside the calls and the effects. A call is at fault by its name alone, an effect by the lack
of a call into its slot anywhere before it.

The stage decides the latter by looking for a character in the unit that is being made and then in
the units before. The invariant of the history module says that it finds one exactly if there was a
call, so that the first directive at fault is the one at which the stage stops.
-/

import VisualNovel.Proofs.Staging.History

namespace VisualNovel

open Script

namespace Script

/-- The first table in which a call looks something up in vain, and what it looks up: the name
without its blank ends, or the number that the name stands for. -/
def Directive.missing? (tables : ReferenceTables) : Directive → Option (String × String)
  | .character _ name _ _ =>
    match tables.characterId? (String.ofList (Parameter.text (some name))) with
    | none => some ("character name", String.ofList (Parameter.text (some name)))
    | some id =>
      match tables.character? id with
      | none => some ("character", toString id.toNat)
      | some _ => none
  | _ => none

/-- What is wrong with a directive, where `before` is everything the script of the story says before
it. -/
inductive Faulty (tables : ReferenceTables) (before : List Directive) :
    Directive → StagingFault → Prop
  /-- The name has no number. -/
  | unknownName {slot : Slot} {name face : List Char} {talk : Parameter}
      (hname : tables.characterId? (String.ofList (Parameter.text (some name))) = none) :
      Faulty tables before (.character slot name face talk)
        (.unknownName (String.ofList (Parameter.text (some name))))
  /-- The name has a number, and the number has no character. -/
  | unknownCharacter {slot : Slot} {name face : List Char} {talk : Parameter} {id : UInt64}
      (hname : tables.characterId? (String.ofList (Parameter.text (some name))) = some id)
      (hid : tables.character? id = none) :
      Faulty tables before (.character slot name face talk) (.unknownCharacter id)
  /-- Nobody was called into the slot before. -/
  | emptySlot {slot : Slot} {kind name : List Char} {async : Parameter}
      (hnever : ∀ directive ∈ before, directive.callIn? slot = none) :
      Faulty tables before (.characterEffect slot kind name async) (.emptySlot slot.position)

/-- A script in which nothing is wrong. -/
def Faultless (tables : ReferenceTables) (script : List Directive) : Prop :=
  ∀ before directive after, script = before ++ directive :: after →
    ∀ fault, ¬ Faulty tables before directive fault

variable {tables : ReferenceTables} {before after : List Directive} {directive : Directive}
  {fault : StagingFault}

/-- No fault of a directive lets staging go on. -/
theorem Faulty.isRecoverable_eq_false (hfault : Faulty tables before directive fault) :
    fault.isRecoverable = false := by
  cases hfault <;> rfl

/-- A fault of a call names the table that has no entry and what was looked up in it, and a fault of
an effect names none. -/
theorem Faulty.missing?_eq (hfault : Faulty tables before directive fault) :
    fault.missing? = directive.missing? tables := by
  cases hfault with
  | unknownName hname => simp only [Directive.missing?, hname, StagingFault.missing?]
  | unknownCharacter hname hid => simp only [Directive.missing?, hname, hid, StagingFault.missing?]
  | emptySlot hnever => rfl

theorem faultless_nil : Faultless tables [] := by
  intro before directive after hsplit
  simp at hsplit

/-- A script is faultless as far as it goes. -/
theorem Faultless.of_append (hfaultless : Faultless tables (before ++ after)) :
    Faultless tables before := by
  rintro first directive second rfl fault hfault
  exact hfaultless first directive (second ++ after) (by simp) fault hfault

theorem Faultless.concat (hfaultless : Faultless tables before)
    (hgood : ∀ fault, ¬ Faulty tables before directive fault) :
    Faultless tables (before ++ [directive]) := by
  intro first other second hsplit fault hfault
  rcases List.eq_nil_or_concat second with rfl | ⟨rest, last, rfl⟩
  · obtain ⟨rfl, hlast⟩ := List.append_inj' hsplit rfl
    cases hlast
    exact hgood fault hfault
  · rw [List.concat_eq_append, ← List.cons_append, ← List.append_assoc] at hsplit
    obtain ⟨rfl, _⟩ := List.append_inj' hsplit rfl
    exact hfaultless first other rest rfl fault hfault

end Script

namespace Cast

variable {scene : Scene} {before done : List Directive} {cast : List StagedCharacter}
  {directive : Directive}

/-- A directive at fault is not applied. -/
theorem Follows.after_eq_error {fault : StagingFault} (hfollows : Follows scene before done cast)
    (hfault : Faulty scene.tables (before ++ done) directive fault) :
    after scene cast directive = .error (scene.error fault) := by
  cases hfault with
  | unknownName hname => exact after_character_of_unknownName hname
  | unknownCharacter hname hid => exact after_character_of_unknownCharacter hname hid
  | @emptySlot slot _ _ _ hnever =>
    have hsettled := hfollows.settled slot
    rw [lastCall?_eq_none_iff.mpr hnever] at hsettled
    have hnobody : ((seen? cast slot.position).map (·.1)).or
        (lastSeen? scene.earlier scene.index slot.position) = none := by
      cases hleft : ((seen? cast slot.position).map (·.1)).or
          (lastSeen? scene.earlier scene.index slot.position) with
      | none => rfl
      | some shown =>
        rw [hleft] at hsettled
        cases hsettled
    obtain ⟨hfree, hlast⟩ := Option.or_eq_none_iff.mp hnobody
    exact after_characterEffect_of_empty (Option.map_eq_none_iff.mp hfree) hlast

/-- A directive that is not applied is at fault. -/
theorem Follows.exists_fault {error : StagingError} (hfollows : Follows scene before done cast)
    (herror : after scene cast directive = .error error) :
    ∃ fault, Faulty scene.tables (before ++ done) directive fault ∧ error = scene.error fault := by
  suffices hfault : ∃ fault, Faulty scene.tables (before ++ done) directive fault by
    obtain ⟨fault, hfault⟩ := hfault
    refine ⟨fault, hfault, ?_⟩
    rw [hfollows.after_eq_error hfault] at herror
    cases herror
    rfl
  cases directive with
  | character slot name face talk =>
    cases hname : scene.tables.characterId? (String.ofList (Parameter.text (some name))) with
    | none => exact ⟨_, .unknownName hname⟩
    | some id =>
      cases hid : scene.tables.character? id with
      | none => exact ⟨_, .unknownCharacter hname hid⟩
      | some record =>
        have hknown : ∃ shown, scene.appearance? name face = some shown := by
          simp [StagingContext.appearance?, hname, hid]
        obtain ⟨shown, hshown⟩ := hknown
        obtain ⟨next, hnext, _⟩ := after_character_of_known cast slot talk hshown
        rw [hnext] at herror
        cases herror
  | characterEffect slot kind name async =>
    have hnobody : (seen? cast slot.position).or
        ((lastSeen? scene.earlier scene.index slot.position).map (·, [])) = none := by
      cases hshown : (seen? cast slot.position).or
          ((lastSeen? scene.earlier scene.index slot.position).map (·, [])) with
      | none => rfl
      | some pair =>
        obtain ⟨next, hnext, _⟩ := after_characterEffect_of_seen kind name async hshown
        rw [hnext] at herror
        cases herror
    obtain ⟨hfree, hlast⟩ := Option.or_eq_none_iff.mp hnobody
    have hsettled := hfollows.settled slot
    rw [hfree, Option.map_eq_none_iff.mp hlast] at hsettled
    cases hcall : lastCall? slot (before ++ done) with
    | none => exact ⟨_, .emptySlot (lastCall?_eq_none_iff.mp hcall)⟩
    | some call =>
      rw [hcall] at hsettled
      cases hsettled
  | _ => cases herror

end Cast

namespace Scene

variable {scene : Scene} {before directives : List Directive} {unit : StoryUnit}
  {reports : List StagingError} {error : StagingError}

/-- The directives of a row that are applied in turn are faultless. -/
theorem faultless_of_applyAll (hremembers : scene.Remembers before scene.earlier)
    (hindex : scene.index = scene.earlier.length) (hbefore : Faultless scene.tables before)
    (hrun : scene.applyAll scene.opening directives = (.ok unit, reports)) :
    Faultless scene.tables (before ++ directives) := by
  have hboth := applyAll_induction
    (motive := fun done next _ => Cast.Follows scene before done next.cast ∧
      Faultless scene.tables (before ++ done))
    ⟨Cast.follows_nil hremembers hindex, by rwa [List.append_nil]⟩ ?_ hrun
  · exact hboth.2
  · rintro done middle directive after earlier later ⟨hfollows, hdone⟩ happly
    obtain ⟨cast, hcast, rfl, _⟩ := apply_eq_ok_iff.mp happly
    refine ⟨hfollows.of_after hcast, ?_⟩
    rw [← List.append_assoc]
    apply hdone.concat
    intro fault hfault
    rw [hfollows.after_eq_error hfault] at hcast
    cases hcast

/-- A row fails exactly if one of its directives is at fault, and with the first that is. -/
theorem stage_eq_error_iff_faulty (hremembers : scene.Remembers before scene.earlier)
    (hindex : scene.index = scene.earlier.length) (hbefore : Faultless scene.tables before) :
    scene.stage.1 = .error error ↔
      ∃ first directive rest fault,
        Script.directives scene.row.script.toList = first ++ directive :: rest ∧
        Faultless scene.tables (before ++ first) ∧
        Faulty scene.tables (before ++ first) directive fault ∧ error = scene.error fault := by
  constructor
  · intro herror
    obtain ⟨reports, hstage⟩ : ∃ reports, scene.stage = (.error error, reports) :=
      ⟨_, Prod.ext herror rfl⟩
    obtain ⟨first, directive, rest, middle, hsplit, hfirst, hfails⟩ :=
      applyAll_eq_error_iff.mp (stage_eq_error_iff.mp hstage)
    have hfollows := Cast.follows_of_applyAll hremembers hindex hfirst
    obtain ⟨fault, hfault, rfl⟩ := hfollows.exists_fault (apply_eq_error_iff.mp hfails)
    exact ⟨first, directive, rest, fault, hsplit,
      faultless_of_applyAll hremembers hindex hbefore hfirst, hfault, rfl⟩
  · rintro ⟨first, directive, rest, fault, hsplit, hfirst, hfault, rfl⟩
    cases hrun : scene.applyAll scene.opening first with
    | mk result reports =>
      cases result with
      | ok middle =>
        have hfollows := Cast.follows_of_applyAll hremembers hindex hrun
        have hfails := apply_eq_error_iff.mpr (hfollows.after_eq_error hfault)
        have hstage := stage_eq_error_iff.mpr
          (applyAll_eq_error_iff.mpr ⟨first, directive, rest, middle, hsplit, hrun, hfails⟩)
        rw [hstage]
      | error other =>
        -- The stage cannot have stopped earlier, for a directive at fault would stand there.
        obtain ⟨start, failing, later, middle, rfl, hstart, hfails⟩ :=
          applyAll_eq_error_iff.mp hrun
        have hfollows := Cast.follows_of_applyAll hremembers hindex hstart
        obtain ⟨earlier, hearlier, _⟩ := hfollows.exists_fault (apply_eq_error_iff.mp hfails)
        rw [← List.append_assoc] at hfirst
        exact absurd hearlier (hfirst _ _ _ rfl earlier)

end Scene

namespace Story

variable {context : StagingContext} {rows : List Row} {error : StagingError}

/-- The error is that of the first directive at fault in the rows. -/
def FailsFirst (tables : ReferenceTables) (rows : List Row) (error : StagingError) : Prop :=
  ∃ done row later before directive after fault,
    rows = done ++ row :: later ∧
    Script.directives row.script.toList = before ++ directive :: after ∧
    Faultless tables (script done ++ before) ∧
    Faulty tables (script done ++ before) directive fault ∧
    error = { row := done.length, script := row.script, fault }

/-- The script of rows that are staged is faultless, and each row has its unit. -/
theorem faultless_of_run {last : Staging} (hrun : Staging.run context {} rows = .ok last) :
    Faultless context.tables (script rows) ∧ last.units.length = rows.length := by
  have hevery := Staging.run_induction
    (motive := fun done staging => context.Remembers (script done) staging.units ∧
      Faultless context.tables (script done) ∧ staging.units.length = done.length)
    ⟨fun _ => .none, faultless_nil, rfl⟩ ?_ hrun
  · exact hevery.2
  · rintro done staging row unit next ⟨hremembers, hdone, hlength⟩ hpush
    obtain ⟨reports, hstage, rfl⟩ := Staging.push_eq_ok_iff.mp hpush
    obtain ⟨made, happlied, _⟩ := Scene.stage_eq_ok_iff.mp hstage
    refine ⟨?_, ?_, ?_⟩
    · rw [script_concat]
      exact Staging.remembers_concat hremembers hstage
    · rw [script_concat]
      exact Scene.faultless_of_applyAll hremembers rfl hdone happlied
    · simp [hlength]

/-- Rows that cannot be staged have a directive at fault, and the error is that of the first. -/
theorem failsFirst_of_run (hrun : Staging.run context {} rows = .error error) :
    FailsFirst context.tables rows error := by
  obtain ⟨done, row, later, middle, rfl, hdone, hfails⟩ := Staging.run_eq_error_iff.mp hrun
  obtain ⟨hfaultless, hlength⟩ := faultless_of_run hdone
  obtain ⟨before, directive, after, fault, hsplit, hbefore, hfault, rfl⟩ :=
    (Scene.stage_eq_error_iff_faulty (Staging.remembers_of_run hdone) rfl hfaultless).mp hfails
  refine ⟨done, row, later, before, directive, after, fault, rfl, hsplit, hbefore, hfault, ?_⟩
  rw [← hlength]
  rfl

/-- The script of rows with a first directive at fault is not faultless. -/
theorem FailsFirst.not_faultless {tables : ReferenceTables}
    (hfails : FailsFirst tables rows error) : ¬ Faultless tables (script rows) := by
  obtain ⟨done, row, later, before, directive, after, fault, rfl, hsplit, _, hfault, rfl⟩ := hfails
  intro hfaultless
  refine hfaultless (script done ++ before) directive (after ++ script later) ?_ fault hfault
  simp [script, hsplit]

/-- Rows with a first directive at fault cannot be staged. -/
theorem FailsFirst.run_eq_error (hfails : FailsFirst context.tables rows error) :
    Staging.run context {} rows = .error error := by
  obtain ⟨done, row, later, before, directive, after, fault, rfl, hsplit, hbefore, hfault, rfl⟩ :=
    hfails
  have hdone : Faultless context.tables (script done) := hbefore.of_append
  cases hrun : Staging.run context {} done with
  | error earlier => exact absurd hdone (failsFirst_of_run hrun).not_faultless
  | ok middle =>
    have hlength := (faultless_of_run hrun).2
    apply Staging.run_eq_error_iff.mpr
    refine ⟨done, row, later, middle, rfl, hrun, ?_⟩
    apply (Scene.stage_eq_error_iff_faulty (Staging.remembers_of_run hrun) rfl hdone).mpr
    refine ⟨before, directive, after, fault, hsplit, hbefore, hfault, ?_⟩
    rw [← hlength]
    rfl

/-- Rows cannot be staged exactly if a directive in their script is at fault, whatever else stands
in them, and the error is that of the first: it has the number and the script of its row, it names
what was looked up in vain, and it does not let staging go on. -/
theorem ofRows_eq_error_iff (context : StagingContext) (rows : List Row) :
    (∀ error, ofRows context rows = .error error ↔ FailsFirst context.tables rows error) ∧
    ((∃ error, ofRows context rows = .error error) ↔ ¬ Faultless context.tables (script rows)) ∧
    ∀ before directive fault, Faulty context.tables before directive fault →
      fault.missing? = directive.missing? context.tables ∧ fault.isRecoverable = false := by
  refine ⟨fun error => ?_, ?_, ?_⟩
  · rw [ofRows_eq_error_iff_run]
    exact ⟨failsFirst_of_run, FailsFirst.run_eq_error⟩
  · constructor
    · rintro ⟨error, herror⟩
      exact (failsFirst_of_run (ofRows_eq_error_iff_run.mp herror)).not_faultless
    · intro hfaulty
      cases hrun : Staging.run context {} rows with
      | error error => exact ⟨error, ofRows_eq_error_iff_run.mpr hrun⟩
      | ok last => exact absurd (faultless_of_run hrun).1 hfaulty
  · intro before directive fault hfault
    exact ⟨hfault.missing?_eq, hfault.isRecoverable_eq_false⟩

end Story

namespace Sample

/-- A row whose first effect finds the character of the rows before, and whose second effect is in a
slot into which nobody was called. -/
def failingRow : Row := { script := "#1;em;Heart\n#3;em;Heart" }

theorem directives_failing :
    directives failingRow.script.toList =
      [.characterEffect 0 "em".toList "Heart".toList none,
       .characterEffect 2 "em".toList "Heart".toList none] :=
  directives_eq_of_lines
    [("#1;em;Heart".toList, .characterEffect 0 "em".toList "Heart".toList none),
      ("#3;em;Heart".toList, .characterEffect 2 "em".toList "Heart".toList none)]
    (by decide +kernel) (by decide +kernel)

theorem script_rows :
    Story.script rows =
      [.character 0 "Yuuka".toList "02".toList none, .character 1 "Noa".toList "05".toList none,
       .characterEffect 0 "em".toList "Sweat".toList none,
       .characterEffect 0 "a".toList "hop".toList none,
       .characterEffect 0 "fx".toList "shot".toList (some "async".toList),
       .character 0 "Yuuka".toList "03".toList none] := by
  simp only [Story.script, rows, List.flatMap_cons, List.flatMap_nil, directives_first,
    directives_second, directives_third]
  rfl

/-- The failing row after the three rows, with more rows behind it, fails at its second effect. -/
theorem ofRows_eq_error_failing :
    Story.ofRows context (rows ++ failingRow :: rows) =
        .error { row := 3, script := "#1;em;Heart\n#3;em;Heart", fault := .emptySlot 3 } ∧
      ¬ Faultless tables (Story.script (rows ++ failingRow :: rows)) ∧
      (StagingFault.emptySlot 3).isRecoverable = false := by
  obtain ⟨herror, hfaulty, hreport⟩ :=
    Story.ofRows_eq_error_iff context (rows ++ failingRow :: rows)
  obtain ⟨last, hrun, _⟩ := Story.ofRows_eq_ok_iff.mp ofRows_eq
  have hfine : ∀ fault, ¬ Faulty tables (Story.script rows)
      (.characterEffect 0 "em".toList "Heart".toList none) fault := by
    intro fault hfault
    cases hfault with
    | emptySlot hnever =>
      rw [script_rows] at hnever
      exact absurd (hnever _ List.mem_cons_self) (by decide)
  have hnever : ∀ directive ∈ Story.script rows ++
      [.characterEffect 0 "em".toList "Heart".toList none], directive.callIn? 2 = none := by
    rw [script_rows]
    decide
  have hfault : Faulty tables (Story.script rows ++
        [.characterEffect 0 "em".toList "Heart".toList none])
      (.characterEffect 2 "em".toList "Heart".toList none) (.emptySlot 3) := .emptySlot hnever
  have hfails : Story.FailsFirst tables (rows ++ failingRow :: rows)
      { row := 3, script := "#1;em;Heart\n#3;em;Heart", fault := .emptySlot 3 } :=
    ⟨rows, failingRow, rows, _, _, [], _, rfl, directives_failing,
      (Story.faultless_of_run hrun).1.concat hfine, hfault, rfl⟩
  have hresult := (herror _).mpr hfails
  exact ⟨hresult, hfaulty.mp ⟨_, hresult⟩, (hreport _ _ _ hfault).2⟩

end Sample

end VisualNovel
