/-
# What a library remembers

A library is asked for one thing after another, with other files each time: to load tables, the
stories of a directory or a story, to put in a story, to stage one. Whatever is asked, and whatever
fails, a name that was loaded from a path once stays with that path: from no other path is a story
of that name loaded ever again, and every path that is remembered is that of a story that is there.

What is remembered is told from the requests alone, as the list of the paths from which stories were
loaded. That the library answers to this list is kept by loading one file, and so by all requests.
-/

import VisualNovel.Proofs.Library.Content
import VisualNovel.Proofs.Library.Load

namespace VisualNovel

/-- What a library is asked for. The files are those that are there at the time. -/
inductive LibraryRequest
  | loadTables (tree : FileTree) (directory : Path)
  /-- The stories among the files that are met on a walk. -/
  | loadWalk (tree : FileTree) (walk : List Path)
  | loadFile (tree : FileTree) (path : Path)
  | insertStory (name : String) (rows : List Row)
  | stage (name : String) (settings : PlayerSettings)

namespace Library

variable {library : Library} {tree : FileTree} {path : Path} {paths loaded : List Path}
  {load : StoryLoad}

/-- What is left of the library when something is asked of it. -/
def respond (library : Library) : LibraryRequest → Library
  | .loadTables tree directory => (library.loadTables tree directory).1
  | .loadWalk tree walk => (library.loadWalk tree walk).1
  | .loadFile tree path => (library.loadFile tree path).1
  | .insertStory name rows => library.insertStory name rows
  | .stage _ _ => library

/-- What is left of it after several requests. -/
def after (library : Library) (requests : List LibraryRequest) : Library :=
  requests.foldl respond library

/-- The paths from which stories are loaded until the first load fails. -/
def loadedPaths (library : Library) (tree : FileTree) : List Path → List Path
  | [] => []
  | path :: paths =>
    match library.loadFile tree path with
    | (_, .error _) => []
    | (library, .ok ()) => path :: library.loadedPaths tree paths

/-- The paths from which a request loads stories. -/
def loadsOf (library : Library) : LibraryRequest → List Path
  | .loadWalk tree walk => library.loadedPaths tree (storyPaths tree walk)
  | .loadFile tree path => library.loadedPaths tree [path]
  | .loadTables _ _ | .insertStory _ _ | .stage _ _ => []

/-- The paths from which several requests load stories. -/
def loads (library : Library) : List LibraryRequest → List Path
  | [] => []
  | request :: requests => library.loadsOf request ++ (library.respond request).loads requests

/-- The library knows the name of the path, and knows it from the path. -/
def Knows (library : Library) (path : Path) : Prop :=
  ∃ name source, path.stem? = some name ∧ library.sources[name]? = some source ∧
    source.components = path.components

/-- The library remembers the paths from which stories were loaded. -/
structure Remembers (library : Library) (loaded : List Path) : Prop where
  /-- It knows all of the paths. -/
  known : ∀ path ∈ loaded, library.Knows path
  /-- Paths for one name are the same path. -/
  agree : loaded.Pairwise fun first second =>
    first.stem? = second.stem? → first.components = second.components
  /-- Every name that it knows is that of a story. -/
  sourced : ∀ name, name ∈ library.sources → name ∈ library.stories

/-- A load of a name that is known from another path is refused. -/
theorem Knows.refused {earlier : Path} (hknows : library.Knows earlier)
    (hstem : path.stem? = earlier.stem?) (hother : path.components ≠ earlier.components) :
    ∃ name source, path.stem? = some name ∧ source.components = earlier.components ∧
      library.loadFile tree path = (library, .error (.collision name source path)) := by
  obtain ⟨name, source, hname, hsource, hsame⟩ := hknows
  rw [hname] at hstem
  refine ⟨name, source, hstem, hsame, loadFile_eq_collision hstem hsource fun hpath => ?_⟩
  exact hother (hpath.symm.trans hsame)

/-- What is allowed to be loaded agrees with what is known. -/
theorem Knows.components_eq {earlier : Path} (hknows : library.Knows earlier)
    (hallows : library.Allows load) (hstem : earlier.stem? = some load.name) :
    earlier.components = load.path.components := by
  obtain ⟨name, source, hname, hsource, hsame⟩ := hknows
  cases hname.symm.trans hstem
  exact hsame.symm.trans (hallows source hsource)

theorem Knows.withLoad {earlier : Path} (hknows : library.Knows earlier)
    (hallows : library.Allows load) : (library.withLoads [load]).Knows earlier := by
  obtain ⟨name, source, hname, hsource, hsame⟩ := hknows
  by_cases hload : load.name = name
  · subst hload
    exact ⟨_, load.path, hname, by rw [getElem?_sources_withLoads_singleton, if_pos rfl],
      (hallows source hsource).symm.trans hsame⟩
  · refine ⟨name, source, hname, ?_, hsame⟩
    rw [getElem?_sources_withLoads_singleton, if_neg hload, hsource]

theorem knows_withLoad (hload : load.IsIn tree) : (library.withLoads [load]).Knows load.path :=
  ⟨load.name, load.path, hload.stem, by rw [getElem?_sources_withLoads_singleton, if_pos rfl], rfl⟩

namespace Knows

variable {earlier : Path}

theorem loadFile (hknows : library.Knows earlier) (tree : FileTree) (path : Path) :
    (library.loadFile tree path).1.Knows earlier := by
  rcases hfile : library.loadFile tree path with ⟨changed, error | ok⟩
  · exact eq_of_loadFile_eq_error hfile ▸ hknows
  · obtain ⟨load, rfl, _, hallows, rfl⟩ := loadFile_eq_ok_iff.mp hfile
    exact hknows.withLoad hallows

theorem loadStories (hknows : library.Knows earlier) (tree : FileTree) (paths : List Path) :
    (library.loadStories tree paths).1.Knows earlier := by
  induction paths generalizing library with
  | nil => exact hknows
  | cons path rest ih =>
    have hfirst := hknows.loadFile tree path
    unfold Library.loadStories
    rcases hfile : library.loadFile tree path with ⟨changed, error | ok⟩
    · rwa [hfile] at hfirst
    · rw [hfile] at hfirst
      exact ih hfirst

theorem respond (hknows : library.Knows earlier) (request : LibraryRequest) :
    (library.respond request).Knows earlier := by
  cases request with
  | loadTables | insertStory | stage => exact hknows
  | loadWalk tree walk => exact hknows.loadStories tree _
  | loadFile tree path => exact hknows.loadFile tree path

/-- By induction on the requests, a name belongs to its path whatever is asked. -/
theorem after (hknows : library.Knows earlier) (requests : List LibraryRequest) :
    (library.after requests).Knows earlier := by
  induction requests generalizing library with
  | nil => exact hknows
  | cons request rest ih => exact ih (hknows.respond request)

end Knows

namespace Remembers

/-- One more load that is allowed is remembered as well. -/
theorem withLoad (hremembers : library.Remembers loaded) (hload : load.IsIn tree)
    (hallows : library.Allows load) :
    (library.withLoads [load]).Remembers (loaded ++ [load.path]) := by
  obtain ⟨hknown, hagree, hsourced⟩ := hremembers
  constructor
  · intro path hpath
    rcases List.mem_append.mp hpath with hpath | hpath
    · exact (hknown path hpath).withLoad hallows
    · rw [List.mem_singleton.mp hpath]
      exact knows_withLoad hload
  · rw [List.pairwise_append]
    refine ⟨hagree, List.pairwise_singleton _ _, fun first hfirst second hsecond hstem => ?_⟩
    rw [List.mem_singleton.mp hsecond] at hstem ⊢
    exact (hknown first hfirst).components_eq hallows (hstem.trans hload.stem)
  · intro name hname
    simp only [withLoads, List.map_singleton, Std.ExtTreeMap.insertMany_list_singleton,
      Std.ExtTreeMap.mem_insert] at hname ⊢
    exact hname.imp_right (hsourced name)

theorem loadStories_singleton :
    library.loadStories tree [path] = library.loadFile tree path := by
  unfold Library.loadStories Library.loadStories
  rcases library.loadFile tree path with ⟨changed, error | ok⟩ <;> rfl

/-- By induction on the paths, so are all loads up to the first failure. -/
theorem loadStories (hremembers : library.Remembers loaded) (tree : FileTree) (paths : List Path) :
    (library.loadStories tree paths).1.Remembers (loaded ++ library.loadedPaths tree paths) := by
  induction paths generalizing library loaded with
  | nil => exact (List.append_nil loaded).symm ▸ hremembers
  | cons path rest ih =>
    unfold Library.loadStories loadedPaths
    rcases hfile : library.loadFile tree path with ⟨changed, error | ok⟩
    · rw [List.append_nil, eq_of_loadFile_eq_error hfile]
      exact hremembers
    · obtain ⟨load, rfl, hload, hallows, rfl⟩ := loadFile_eq_ok_iff.mp hfile
      rw [List.append_cons]
      exact ih (hremembers.withLoad hload hallows)

/-- Whatever is asked, it is remembered what was loaded. -/
theorem respond (hremembers : library.Remembers loaded) (request : LibraryRequest) :
    (library.respond request).Remembers (loaded ++ library.loadsOf request) := by
  cases request with
  | loadTables tree directory =>
    rw [loadsOf, List.append_nil]
    exact ⟨hremembers.known, hremembers.agree, hremembers.sourced⟩
  | loadWalk tree walk => exact hremembers.loadStories tree (storyPaths tree walk)
  | loadFile tree path =>
    rw [Library.respond, ← loadStories_singleton]
    exact hremembers.loadStories tree [path]
  | insertStory name rows =>
    rw [loadsOf, List.append_nil]
    refine ⟨hremembers.known, hremembers.agree, fun other hother => ?_⟩
    exact Std.ExtTreeMap.mem_insert.mpr (.inr (hremembers.sourced other hother))
  | stage name settings =>
    rw [loadsOf, List.append_nil]
    exact hremembers

/-- By induction on the requests, so it is after any number of them. -/
theorem after (hremembers : library.Remembers loaded) (requests : List LibraryRequest) :
    (library.after requests).Remembers (loaded ++ library.loads requests) := by
  induction requests generalizing library loaded with
  | nil =>
    rw [loads, List.append_nil]
    exact hremembers
  | cons request rest ih =>
    rw [loads, ← List.append_assoc]
    exact ih (hremembers.respond request)

end Remembers

/-- A library keeps to what was loaded into it before. -/
structure Keeps (library : Library) (loaded : List Path) : Prop
    extends Remembers library loaded where
  /-- A load that fails leaves everything as it was. -/
  failed : ∀ tree path error, (library.loadFile tree path).2 = .error error →
    (library.loadFile tree path).1 = library
  /-- A load that succeeds changes the rows of one name, to those that are read from the path. They
  are what the file there tells, and there are none where nothing is. -/
  changed : ∀ tree path, (library.loadFile tree path).2 = .ok () →
    ∃ name rows, path.stem? = some name ∧ Content.readList tree path Row.ofJson? = .ok rows ∧
      ((∃ content, tree.find path = .ok (.file content) ∧
          Content.Tells Row.ofJson? content rows) ∨ tree.contains path = false ∧ rows = []) ∧
      (∀ other, (library.loadFile tree path).1.stories[other]? =
        if name = other then some rows else library.stories[other]?) ∧
      (library.loadFile tree path).1.tables = library.tables
  /-- A load of a name from another path than before is refused. -/
  refused : ∀ earlier ∈ loaded, ∀ tree path, path.stem? = earlier.stem? →
    path.components ≠ earlier.components → ∃ name source, path.stem? = some name ∧
      source.components = earlier.components ∧
      library.loadFile tree path = (library, .error (.collision name source path))
  /-- So is a walk on which there is such a path. -/
  walkRefused : ∀ earlier ∈ loaded, ∀ tree walk, ∀ path ∈ storyPaths tree walk,
    path.stem? = earlier.stem? → path.components ≠ earlier.components →
      ∃ error, (library.loadWalk tree walk).2 = .error error

theorem loadFile_changes (hload : (library.loadFile tree path).2 = .ok ()) :
    ∃ name rows, path.stem? = some name ∧ Content.readList tree path Row.ofJson? = .ok rows ∧
      ((∃ content, tree.find path = .ok (.file content) ∧
          Content.Tells Row.ofJson? content rows) ∨ tree.contains path = false ∧ rows = []) ∧
      (∀ other, (library.loadFile tree path).1.stories[other]? =
        if name = other then some rows else library.stories[other]?) ∧
      (library.loadFile tree path).1.tables = library.tables := by
  obtain ⟨load, rfl, ⟨hstem, hrows⟩, _, hresult⟩ :=
    loadFile_eq_ok_iff.mp (loadFile_eq_of_snd_eq_ok hload)
  rw [hresult]
  exact ⟨load.name, load.rows, hstem, hrows, Content.readList_eq_ok_iff_tells.mp hrows,
    fun _ => getElem?_stories_withLoads_singleton, rfl⟩

/-- A walk with a path for a name that is known from another path fails. -/
theorem Knows.walk_refused {earlier : Path} (hknows : library.Knows earlier) {walk : List Path}
    (hpath : path ∈ storyPaths tree walk) (hstem : path.stem? = earlier.stem?)
    (hother : path.components ≠ earlier.components) :
    ∃ error, (library.loadWalk tree walk).2 = .error error := by
  rcases hwalk : library.loadWalk tree walk with ⟨result, error | count⟩
  · exact ⟨error, rfl⟩
  · obtain ⟨hstories, _⟩ := loadWalk_eq_ok_iff_loadStories.mp hwalk
    obtain ⟨loads, hpaths, hloads, hallows, _⟩ := loadStories_eq_ok_iff.mp hstories
    obtain ⟨load, hload, rfl⟩ := List.mem_map.mp (hpaths ▸ hpath)
    have hsame := hknows.components_eq (hallows.known load hload)
      (hstem.symm.trans (hloads load hload).stem)
    exact absurd hsame.symm hother

/-- Whatever was asked of a new library, failures included, it keeps to what was loaded. -/
theorem keeps_after (requests : List LibraryRequest) :
    Keeps (({} : Library).after requests) (({} : Library).loads requests) := by
  have hstart : Remembers {} [] :=
    ⟨by simp, .nil, fun name hname => absurd hname Std.ExtTreeMap.not_mem_empty⟩
  have hremembers := hstart.after requests
  rw [List.nil_append] at hremembers
  exact { hremembers with
    failed := fun _ _ _ => loadFile_fst_of_error
    changed := fun _ _ => loadFile_changes
    refused := fun earlier hearlier _ _ => (hremembers.known earlier hearlier).refused
    walkRefused := fun earlier hearlier _ _ _ => (hremembers.known earlier hearlier).walk_refused }

/-- A story that is put in under a name does not free the name for another path. -/
example :
    let tree : FileTree := .directory [("a", .directory [("x.json", .file (.ok "[]".toUTF8))]),
      ("b", .directory [("x.json", .file (.ok "[]".toUTF8))])]
    let library := ({} : Library).after
      [.loadFile tree ⟨"a/x.json"⟩, .loadFile tree ⟨"b/x.json"⟩, .insertStory "x" [{}]]
    (library.loadFile tree ⟨"b/x.json"⟩).2 =
        .error (.collision "x" ⟨"a/x.json"⟩ ⟨"b/x.json"⟩) ∧
      (library.loadFile tree ⟨"a//x.json"⟩).2 = .ok () := by
  decide +kernel

end Library

end VisualNovel
