/-
# What is loaded from files

A story is loaded from a file if the path of the file has a name in it, the file can be read, and
the library does not know the name from another path. The library then has the rows under the name
and remembers the path; nothing else in it is changed, and nothing at all if the load fails.

Several files are loaded if each of them is, and no two of them give one name to different paths.
What the library then has does not mention the steps by which it came to it: it is filled with what
the files tell.
-/

import VisualNovel.Library.Basic
import VisualNovel.Proofs.Entries

namespace VisualNovel

/-- A story with its name and the path that it is loaded from. -/
structure StoryLoad where
  name : String
  path : Path
  rows : List Row

/-- The path is one for the name, and the rows are read from it. -/
structure StoryLoad.IsIn (load : StoryLoad) (tree : FileTree) : Prop where
  stem : load.path.stem? = some load.name
  rows : Content.readList tree load.path Row.ofJson? = .ok load.rows

namespace Library

variable {library result : Library} {tree : FileTree} {path : Path} {paths : List Path}
  {load : StoryLoad} {loads : List StoryLoad} {name : String} {error : LibraryError}

/-- The library filled with loads. -/
def withLoads (library : Library) (loads : List StoryLoad) : Library :=
  { library with
    stories := library.stories.insertMany (loads.map fun load => (load.name, load.rows))
    sources := library.sources.insertMany (loads.map fun load => (load.name, load.path)) }

/-- The library does not know the name from a path other than that of the load. -/
def Allows (library : Library) (load : StoryLoad) : Prop :=
  ∀ source, library.sources[load.name]? = some source → source.components = load.path.components

theorem withLoads_cons :
    library.withLoads (load :: loads) = (library.withLoads [load]).withLoads loads := by
  simp [withLoads, Std.ExtTreeMap.insertMany_cons]

/-- Of the stories, one load changes that of its name. -/
theorem getElem?_stories_withLoads_singleton :
    (library.withLoads [load]).stories[name]? =
      if load.name = name then some load.rows else library.stories[name]? := by
  simp [withLoads, Std.ExtTreeMap.getElem?_insert]

/-- Of the paths, one load changes that of its name. -/
theorem getElem?_sources_withLoads_singleton :
    (library.withLoads [load]).sources[name]? =
      if load.name = name then some load.path else library.sources[name]? := by
  simp [withLoads, Std.ExtTreeMap.getElem?_insert]

theorem rival?_eq_none_iff : library.rival? load.name load.path = none ↔ library.Allows load := by
  simp [rival?, Allows, Option.filter_eq_none_iff]

theorem loadFile_eq_ok_iff :
    library.loadFile tree path = (result, .ok ()) ↔
      ∃ load, load.path = path ∧ load.IsIn tree ∧ library.Allows load ∧
        result = library.withLoads [load] := by
  constructor
  · intro hload
    unfold loadFile at hload
    split at hload
    next => cases hload
    next name hstem =>
      split at hload
      next => cases hload
      next hrival =>
        split at hload
        next => cases hload
        next rows hrows =>
          cases hload
          exact ⟨⟨name, path, rows⟩, rfl, ⟨hstem, hrows⟩, rival?_eq_none_iff.mp hrival, by
            simp [withLoads, recordSource, insertStory]⟩
  · rintro ⟨load, rfl, ⟨hstem, hrows⟩, hallows, rfl⟩
    unfold loadFile
    rw [hstem]
    simp only [rival?_eq_none_iff.mpr hallows, hrows]
    simp [withLoads, recordSource, insertStory]

theorem loadFile_eq_of_snd_eq_ok (hload : (library.loadFile tree path).2 = .ok ()) :
    library.loadFile tree path = ((library.loadFile tree path).1, .ok ()) := by
  rw [← hload]

/-- A load that fails leaves the library as it was. -/
theorem loadFile_fst_of_error (hload : (library.loadFile tree path).2 = .error error) :
    (library.loadFile tree path).1 = library := by
  unfold loadFile at hload ⊢
  split
  · rfl
  · split
    · rfl
    · split
      · rfl
      · simp_all

theorem eq_of_loadFile_eq_error (hfile : library.loadFile tree path = (result, .error error)) :
    result = library := by
  have hfirst := loadFile_fst_of_error (congrArg Prod.snd hfile)
  rwa [hfile] at hfirst

/-- A path other than the one that a name is known from is refused before it is looked at. -/
theorem loadFile_eq_collision {source : Path} (hstem : path.stem? = some name)
    (hsource : library.sources[name]? = some source)
    (hother : source.components ≠ path.components) :
    library.loadFile tree path = (library, .error (.collision name source path)) := by
  have hrival : library.rival? name path = some source := by
    rw [rival?, hsource, Option.filter_some, if_pos (decide_eq_true hother)]
  unfold loadFile
  rw [hstem]
  simp only [hrival]

/-- Loads that the library allows, and that allow each other. -/
structure AllowsAll (library : Library) (loads : List StoryLoad) : Prop where
  known : ∀ load ∈ loads, library.Allows load
  agree : loads.Pairwise fun first second =>
    first.name = second.name → first.path.components = second.path.components

/-- After a load, the library allows what it allowed before and what does not contradict the
load. -/
theorem allows_withLoads_singleton {next : StoryLoad} (hallows : library.Allows load) :
    (library.withLoads [load]).Allows next ↔
      (load.name = next.name → load.path.components = next.path.components) ∧
        library.Allows next := by
  unfold Allows
  rw [getElem?_sources_withLoads_singleton]
  by_cases hname : load.name = next.name
  · rw [Allows, hname] at hallows
    rw [if_pos hname]
    constructor
    · intro h
      have hpath := h load.path rfl
      exact ⟨fun _ => hpath, fun source hsource => (hallows source hsource).trans hpath⟩
    · rintro ⟨hpath, _⟩ source ⟨⟩
      exact hpath hname
  · simp [hname]

theorem allowsAll_cons :
    library.AllowsAll (load :: loads) ↔
      library.Allows load ∧ (library.withLoads [load]).AllowsAll loads := by
  constructor
  · rintro ⟨hknown, hagree⟩
    obtain ⟨hload, hloads⟩ := List.forall_mem_cons.mp hknown
    obtain ⟨hfirst, hrest⟩ := List.pairwise_cons.mp hagree
    exact ⟨hload, fun next hnext =>
      (allows_withLoads_singleton hload).mpr ⟨hfirst next hnext, hloads next hnext⟩, hrest⟩
  · rintro ⟨hload, hknown, hagree⟩
    have hboth := fun next hnext => (allows_withLoads_singleton hload).mp (hknown next hnext)
    exact ⟨List.forall_mem_cons.mpr ⟨hload, fun next hnext => (hboth next hnext).2⟩,
      List.pairwise_cons.mpr ⟨fun next hnext => (hboth next hnext).1, hagree⟩⟩

/-- Stories are loaded from paths if each is, and none contradicts another or what the library
knows. -/
theorem loadStories_eq_ok_iff :
    library.loadStories tree paths = (result, .ok ()) ↔
      ∃ loads, loads.map StoryLoad.path = paths ∧ (∀ load ∈ loads, load.IsIn tree) ∧
        library.AllowsAll loads ∧ result = library.withLoads loads := by
  induction paths generalizing library with
  | nil =>
    constructor
    · rintro ⟨⟩
      exact ⟨[], rfl, by simp, ⟨by simp, .nil⟩, rfl⟩
    · rintro ⟨loads, hpaths, _, _, rfl⟩
      rw [List.map_eq_nil_iff.mp hpaths]
      rfl
  | cons path rest ih =>
    unfold loadStories
    constructor
    · intro hstories
      split at hstories
      next => cases hstories
      next library' hfile =>
        obtain ⟨load, rfl, hload, hallows, rfl⟩ := loadFile_eq_ok_iff.mp hfile
        obtain ⟨loads, rfl, hloads, hall, rfl⟩ := ih.mp hstories
        exact ⟨load :: loads, rfl, List.forall_mem_cons.mpr ⟨hload, hloads⟩,
          allowsAll_cons.mpr ⟨hallows, hall⟩, withLoads_cons.symm⟩
    · rintro ⟨loads, hpaths, hloads, hall, rfl⟩
      obtain ⟨load, loads, rfl, rfl, hrest⟩ := List.map_eq_cons_iff.mp hpaths
      obtain ⟨hload, hloads⟩ := List.forall_mem_cons.mp hloads
      obtain ⟨hallows, hall⟩ := allowsAll_cons.mp hall
      rw [loadFile_eq_ok_iff.mpr ⟨load, rfl, hload, hallows, rfl⟩]
      exact ih.mpr ⟨loads, hrest, hloads, hall, withLoads_cons⟩

/-- The story files among the paths of a walk. -/
def storyPaths (tree : FileTree) (walk : List Path) : List Path :=
  walk.filter fun path => tree.isFile path && isStoryPath path

theorem loadWalk_eq_ok_iff_loadStories {walk : List Path} {count : Nat} :
    library.loadWalk tree walk = (result, .ok count) ↔
      library.loadStories tree (storyPaths tree walk) = (result, .ok ()) ∧
        (storyPaths tree walk).length = count := by
  have hwalk : library.loadWalk tree walk =
      ((library.loadStories tree (storyPaths tree walk)).1,
        (library.loadStories tree (storyPaths tree walk)).2.map fun _ =>
          (storyPaths tree walk).length) := rfl
  rw [hwalk]
  rcases library.loadStories tree (storyPaths tree walk) with ⟨changed, error | ok⟩ <;>
    simp [Except.map]

end Library

end VisualNovel
