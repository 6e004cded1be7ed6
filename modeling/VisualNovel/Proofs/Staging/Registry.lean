/-
# What a story registers

The registry of a story is filled while its rows are staged, and the units are made beside it: each
unit has the name of its animated background for itself. The two are told from one another here. The
names that are registered are those that the units have, and what is registered under a name is
decided by the name and the tables alone. So it does not matter how many rows show a background, in
what order they come, and by which of several numbers they call it.

What is registered has its own name as its key. This is not true of all tables, but of those that
were filled by insertions, since each of them takes a configuration in under its own name.
-/

import VisualNovel.Proofs.Reference.Tables
import VisualNovel.Proofs.Staging.Extension

namespace VisualNovel

open Script

/-- The names of the animated backgrounds that the units show, unit by unit. -/
def StoryUnit.backdrops (units : List StoryUnit) : List String :=
  units.filterMap fun unit => unit.live2d.map (·.name)

theorem StoryUnit.backdrops_concat (units : List StoryUnit) (unit : StoryUnit) :
    backdrops (units ++ [unit]) = backdrops units ++ (unit.live2d.map (·.name)).toList := by
  rw [backdrops, List.filterMap_append]
  cases hname : unit.live2d.map (·.name) <;> simp [backdrops, hname]

/-- The settings of a player, with tables that are filled by the insertions. -/
def StagingContext.filled (entries : List TableEntry) (settings : PlayerSettings) :
    StagingContext :=
  { tables := ReferenceTables.empty.insertAll entries, settings }

/-- The registry of the story belongs to its units, as far as the tables tell. -/
structure Story.Registers (tables : ReferenceTables) (story : Story) : Prop where
  /-- Exactly the names that the units have are registered. -/
  mem_iff : ∀ name : String, name ∈ story.registry ↔ name ∈ StoryUnit.backdrops story.units
  /-- A configuration is registered under its own name. -/
  named : ∀ (name : String) (config : Live2dConfig),
    story.registry[name]? = some config → config.name = name
  /-- It is the one that the tables have for the name, or the empty one if they have none. -/
  config : ∀ (name : String) (config : Live2dConfig),
    story.registry[name]? = some config → config = tables.live2dConfigs[name]?.getD { name }

namespace ReferenceTables

/-- Tables that are filled by insertions have every configuration under its own name. -/
theorem name_of_getElem?_live2dConfigs {entries : List TableEntry} {name : String}
    {config : Live2dConfig}
    (hconfig : (empty.insertAll entries).live2dConfigs[name]? = some config) :
    config.name = name := by
  rw [holdsRecords_live2dConfigs.getElem?_insertAll, empty, Std.ExtTreeMap.getElem?_empty,
    Option.or_none, TableEntry.last?] at hconfig
  obtain ⟨entry, _, hpicked⟩ := List.exists_of_findSome?_eq_some hconfig
  simpa using (Option.filter_eq_some_iff.mp hpicked).2

end ReferenceTables

namespace Staging

variable {context : StagingContext} {rows : List Row} {last : Staging}

/-- The unit of a row has the animated background that the row registers. -/
theorem live2d_of_stage {scene : Scene} {unit : StoryUnit} {reports : List StagingError}
    (hstage : scene.stage = (.ok unit, reports)) : unit.live2d = scene.live2d? :=
  congrArg StoryUnit.live2d (Scene.columns_of_stage hstage)

/-- What a row registers is registered for the name that its unit has. -/
theorem registration_of_stage {staging : Staging} {row : Row} {unit : StoryUnit}
    {reports : List StagingError} (hstage : (staging.scene context row).stage = (.ok unit, reports))
    (name : String) :
    context.registration [staging.scene context row] name =
      if name ∈ (unit.live2d.map (·.name)).toList then
        some (context.tables.live2dConfigs[name]?.getD { name })
      else none := by
  rw [live2d_of_stage hstage, StagingContext.registration, List.any_cons, List.any_nil,
    Bool.or_false, Scene.registers]
  cases (staging.scene context row).live2d? with
  | none => rfl
  | some live2d =>
    simp only [Option.any_some, beq_iff_eq, Option.map_some, Option.toList_some,
      List.mem_singleton, @eq_comm _ name]

/-- By induction on the rows, a run registers under each name that the units have what the tables
have for the name, and nothing else. -/
theorem getElem?_registry_of_run (hrun : run context {} rows = .ok last) (name : String) :
    last.registry[name]? =
      if name ∈ StoryUnit.backdrops last.units then
        some (context.tables.live2dConfigs[name]?.getD { name })
      else none := by
  refine run_induction
    (motive := fun _ staging => staging.registry[name]? =
      if name ∈ StoryUnit.backdrops staging.units then
        some (context.tables.live2dConfigs[name]?.getD { name })
      else none) ?_ ?_ hrun
  · exact Std.ExtTreeMap.getElem?_empty
  · intro done staging row unit next hstaging hpush
    obtain ⟨reports, hstage, rfl⟩ := push_eq_ok_iff.mp hpush
    have hrow : ((staging.scene context row).registered staging.registry)[name]? =
        staging.registry[name]?.or (context.registration [staging.scene context row] name) :=
      Scene.getElem?_registered
    rw [hrow, hstaging, registration_of_stage hstage, StoryUnit.backdrops_concat]
    by_cases hold : name ∈ StoryUnit.backdrops staging.units
    · rw [if_pos hold, Option.some_or, if_pos (List.mem_append_left _ hold)]
    · simp [hold]

/-- A run goes through every number of its rows first, and leaves the first of its units there. -/
theorem exists_run_take (hrun : run context {} rows = .ok last)
    (count : Nat) :
    ∃ start, run context {} (rows.take count) = .ok start ∧
      start.units = last.units.take count := by
  have hlength := length_units_of_run hrun
  rw [← List.take_append_drop count rows, run_append] at hrun
  cases hstart : run context {} (rows.take count) with
  | error error =>
    rw [hstart] at hrun
    cases hrun
  | ok start =>
    rw [hstart] at hrun
    have hbegins : start.units <+: last.units := (begins_of_run hrun).units
    refine ⟨start, rfl, ?_⟩
    rw [List.prefix_iff_eq_take.mp hbegins, length_units_of_run hstart, List.length_take,
      List.take_eq_take_iff]
    omega

end Staging

namespace Story

variable {context : StagingContext} {rows : List Row} {story : Story}

theorem getElem?_registry (hstory : ofRows context rows = .ok story) (name : String) :
    story.registry[name]? =
      if name ∈ StoryUnit.backdrops story.units then
        some (context.tables.live2dConfigs[name]?.getD { name })
      else none := by
  obtain ⟨last, hrun, rfl⟩ := ofRows_eq_ok_iff.mp hstory
  exact Staging.getElem?_registry_of_run hrun name

/-- With tables that are filled by insertions, the registry of a story belongs to its units. -/
theorem registers_of_ofRows {entries : List TableEntry}
    (hfilled : context.tables = ReferenceTables.empty.insertAll entries)
    (hstory : ofRows context rows = .ok story) : story.Registers context.tables := by
  have hconfig (name : String) (config : Live2dConfig)
      (hentry : story.registry[name]? = some config) :
      config = context.tables.live2dConfigs[name]?.getD { name } := by
    rw [getElem?_registry hstory name] at hentry
    split at hentry
    · exact (Option.some.inj hentry).symm
    · cases hentry
  constructor
  · intro name
    rw [Std.ExtTreeMap.mem_iff_isSome_getElem?, getElem?_registry hstory name]
    by_cases hname : name ∈ StoryUnit.backdrops story.units <;> simp [hname]
  · intro name config hentry
    rw [hconfig name config hentry]
    cases hinserted : context.tables.live2dConfigs[name]? with
    | none => rfl
    | some inserted =>
      rw [hfilled] at hinserted
      exact ReferenceTables.name_of_getElem?_live2dConfigs hinserted
  · exact hconfig

/-- Whatever tables are filled by insertions and whatever story its rows make, the names in the
registry are those that the units have, each configuration has its name as its own, and it is that
of the tables, or empty if they have none. The same is true of the story of the first rows, however
many. Another story that shows the same backgrounds has the same registry, however often it shows
each of them and in what order. -/
theorem registers_of_insertAll (entries : List TableEntry) (settings : PlayerSettings)
    (rows : List Row) (story : Story)
    (hstory : ofRows (.filled entries settings) rows = .ok story) :
    story.Registers (ReferenceTables.empty.insertAll entries) ∧
      (∀ count, ∃ start, ofRows (.filled entries settings) (rows.take count) = .ok start ∧
        start.units = story.units.take count ∧
        start.Registers (ReferenceTables.empty.insertAll entries)) ∧
      ∀ others other, ofRows (.filled entries settings) others = .ok other →
        (∀ name, name ∈ StoryUnit.backdrops other.units ↔
          name ∈ StoryUnit.backdrops story.units) →
        other.registry = story.registry := by
  refine ⟨registers_of_ofRows rfl hstory, fun count => ?_, fun others other hother hsame => ?_⟩
  · obtain ⟨last, hrun, rfl⟩ := ofRows_eq_ok_iff.mp hstory
    obtain ⟨start, hstart, hunits⟩ := Staging.exists_run_take hrun count
    have hfirst := ofRows_eq_ok_iff.mpr ⟨start, hstart, rfl⟩
    exact ⟨start.story, hfirst, hunits, registers_of_ofRows rfl hfirst⟩
  · refine Std.ExtTreeMap.ext_getElem? fun name => ?_
    rw [getElem?_registry hstory, getElem?_registry hother]
    exact if_congr (hsame name) rfl rfl

end Story

namespace Sample

/-- Three animated backgrounds, two of which are one and the same by its name, a still one, and a
configuration for the one with two numbers. -/
def backdropEntries : List TableEntry :=
  [.background { id := 20, file := "CH0184_home", kind := .spine, animation := "Idle_01" },
    .background { id := 21, file := "UIs/07_SpineBG/SpineBG_Lobby_CH0184", kind := .spine },
    .background { id := 22, file := "SpineBG_Lobby_CH0070", kind := .spine },
    .background { id := 10, file := "BG_Classroom" },
    .live2dConfig { name := "CH0184_home", playQueue := ["Start_Idle_01", "Idle_01"] },
    .live2dConfig { name := "CH0099_home" }]

/-- Rows that show a background three times by its two numbers, and another one once. -/
def backdropRows : List Row :=
  [{ background := 21 }, { background := 10 }, { background := 22 }, { background := 20 },
    { background := 21 }]

/-- Each of the two backgrounds is registered once. Showing them once and the other way round
registers the same. -/
theorem registers_of_insertAll_backdrops : ∃ story other,
    (Story.ofRows (.filled backdropEntries {}) backdropRows = .ok story ∧
      Story.ofRows (.filled backdropEntries {}) [{ background := 22 }, { background := 20 }] =
        .ok other) ∧
    StoryUnit.backdrops story.units =
      ["CH0184_home", "CH0070_home", "CH0184_home", "CH0184_home"] ∧
    StoryUnit.backdrops other.units = ["CH0070_home", "CH0184_home"] ∧
    story.Registers (ReferenceTables.empty.insertAll backdropEntries) ∧
    (∃ start, Story.ofRows (.filled backdropEntries {}) (backdropRows.take 2) = .ok start ∧
      start.units = story.units.take 2 ∧
      start.Registers (ReferenceTables.empty.insertAll backdropEntries)) ∧
    other.registry = story.registry := by
  have hscript : directives "".toList = [] := by decide +kernel
  have hstory : ∃ story, Story.ofRows (.filled backdropEntries {}) backdropRows = .ok story ∧
      StoryUnit.backdrops story.units =
        ["CH0184_home", "CH0070_home", "CH0184_home", "CH0184_home"] := by
    simp only [Story.ofRows, backdropRows, Staging.run, Staging.push, Scene.stage, Staging.scene,
      hscript]
    exact ⟨_, rfl, rfl⟩
  have hother : ∃ other, Story.ofRows (.filled backdropEntries {})
        [{ background := 22 }, { background := 20 }] = .ok other ∧
      StoryUnit.backdrops other.units = ["CH0070_home", "CH0184_home"] := by
    simp only [Story.ofRows, Staging.run, Staging.push, Scene.stage, Staging.scene, hscript]
    exact ⟨_, rfl, rfl⟩
  obtain ⟨story, hstory, hnames⟩ := hstory
  obtain ⟨other, hother, hothers⟩ := hother
  obtain ⟨hregisters, hfirst, hsame⟩ :=
    Story.registers_of_insertAll backdropEntries {} backdropRows story hstory
  refine ⟨story, other, ⟨hstory, hother⟩, hnames, hothers, hregisters, hfirst 2,
    hsame _ other hother ?_⟩
  simp [hnames, hothers, or_comm]

end Sample
end VisualNovel
