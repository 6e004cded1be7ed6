/-
# Loading a story that is not there

A story is loaded from a path even if there is no file. It then has no rows: whatever was there
under its name is lost, and the name belongs to the path from then on, so that whatever is asked of
the library later, no file elsewhere can be loaded under it. The load fails only for the reasons for
which other loads fail before they look at what is in the file, or if there is a directory at the
path; then the library stays as it was.
-/

import VisualNovel.Proofs.Library.Run

namespace VisualNovel

namespace Content

variable {α : Type} {tree : FileTree} {path : Path}

/-- Where there is no file, there are no records, but a directory cannot be read. -/
theorem readList_of_isFile_eq_false (hfile : tree.isFile path = false)
    (decodeRecord? : Json → Option α) :
    readList tree path decodeRecord? =
      if tree.contains path then .error (.unreadable path .isDirectory) else .ok [] := by
  rw [FileTree.isFile] at hfile
  rw [readList, Content.read, FileTree.contains, FileTree.read]
  cases hfind : tree.find path with
  | error reason => rfl
  | ok found =>
    cases found with
    | file content => simp [hfind] at hfile
    | directory entries => rfl

end Content

namespace Library

variable {library result : Library} {tree : FileTree} {path : Path}

/-- From a path without a file, a story without rows is loaded, if there is no directory either and
the path has a name that is not known from another path. -/
theorem loadFile_eq_ok_iff_of_isFile_eq_false (hfile : tree.isFile path = false) :
    library.loadFile tree path = (result, .ok ()) ↔
      ∃ name, path.stem? = some name ∧ tree.contains path = false ∧
        library.Allows ⟨name, path, []⟩ ∧ result = library.withLoads [⟨name, path, []⟩] := by
  have hread := Content.readList_of_isFile_eq_false hfile Row.ofJson?
  rw [loadFile_eq_ok_iff]
  constructor
  · rintro ⟨⟨name, path, rows⟩, rfl, ⟨hstem, hrows⟩, hallows, rfl⟩
    rw [hread] at hrows
    split at hrows
    next => cases hrows
    next hthere =>
      cases hrows
      exact ⟨name, hstem, Bool.eq_false_iff.mpr hthere, hallows, rfl⟩
  · rintro ⟨name, hstem, hthere, hallows, rfl⟩
    rw [hthere, if_neg Bool.false_ne_true] at hread
    exact ⟨⟨name, path, []⟩, rfl, ⟨hstem, hread⟩, hallows, rfl⟩

/-- What is said of loading a story from a path. -/
structure LoadsNothing (library : Library) (tree : FileTree) (path : Path) : Prop where
  /-- The load succeeds, unless the path has no name, or there is a directory at it, or the name is
  known from another path. -/
  succeeds_iff : (library.loadFile tree path).2 = .ok () ↔
    ∃ name, path.stem? = some name ∧ tree.contains path = false ∧
      ∀ source, library.sources[name]? = some source → source.components = path.components
  /-- If it fails, the library stays as it was. -/
  failed : ∀ error, (library.loadFile tree path).2 = .error error →
    (library.loadFile tree path).1 = library
  /-- If it succeeds, the story of the name has no rows left and counts as that of the path. The
  other stories and their paths stay. -/
  emptied : (library.loadFile tree path).2 = .ok () →
    ∃ name, path.stem? = some name ∧ ∀ other,
      (library.loadFile tree path).1.stories[other]? =
          (if name = other then some [] else library.stories[other]?) ∧
        (library.loadFile tree path).1.sources[other]? =
          if name = other then some path else library.sources[other]?
  /-- And whatever is asked of the library and whatever files there are later, a load of the name
  from any other path is refused. -/
  refused : (library.loadFile tree path).2 = .ok () →
    ∀ requests later other, other.stem? = path.stem? → other.components ≠ path.components →
      ∃ name source, other.stem? = some name ∧ source.components = path.components ∧
        (((library.loadFile tree path).1.after requests).loadFile later other).2 =
          .error (.collision name source other)

/-- This is what comes of loading a story where there is no file. -/
theorem loadsNothing (hfile : tree.isFile path = false) : LoadsNothing library tree path where
  succeeds_iff := by
    constructor
    · intro hload
      obtain ⟨name, hstem, hthere, hallows, _⟩ :=
        (loadFile_eq_ok_iff_of_isFile_eq_false hfile).mp (loadFile_eq_of_snd_eq_ok hload)
      exact ⟨name, hstem, hthere, hallows⟩
    · rintro ⟨name, hstem, hthere, hallows⟩
      rw [(loadFile_eq_ok_iff_of_isFile_eq_false hfile).mpr ⟨name, hstem, hthere, hallows, rfl⟩]
  failed _ := loadFile_fst_of_error
  emptied hload := by
    obtain ⟨name, hstem, _, _, hresult⟩ :=
      (loadFile_eq_ok_iff_of_isFile_eq_false hfile).mp (loadFile_eq_of_snd_eq_ok hload)
    refine ⟨name, hstem, fun other => ?_⟩
    rw [hresult, getElem?_stories_withLoads_singleton, getElem?_sources_withLoads_singleton]
    exact ⟨rfl, rfl⟩
  refused hload requests later other hstem hother := by
    obtain ⟨load, rfl, hin, _, hresult⟩ := loadFile_eq_ok_iff.mp (loadFile_eq_of_snd_eq_ok hload)
    have hknows : (library.loadFile tree load.path).1.Knows load.path := by
      rw [hresult]
      exact knows_withLoad hin
    obtain ⟨name, source, hname, hsame, hrefused⟩ :=
      (hknows.after requests).refused hstem hother
    exact ⟨name, source, hname, hsame, congrArg Prod.snd hrefused⟩

/-- A directory with a story. -/
def firstFiles : FileTree :=
  .directory
    [("a", .directory [("ep1.json", .file (.ok "[\x7b\x7d]".toUTF8))]), ("b", .directory [])]

/-- The same directory when the story has been moved. -/
def movedFiles : FileTree :=
  .directory
    [("a", .directory []), ("b", .directory [("ep1.json", .file (.ok "[\x7b\x7d]".toUTF8))])]

/-- The library into which the story was loaded before it was moved. -/
def movedLibrary : Library := (({} : Library).loadFile firstFiles ⟨"a/ep1.json"⟩).1

theorem loadsNothing_moved :
    movedFiles.isFile ⟨"a/ep1.json"⟩ = false ∧
      LoadsNothing movedLibrary movedFiles ⟨"a/ep1.json"⟩ ∧
      movedLibrary.story? "ep1" = some [{}] ∧
      (movedLibrary.loadFile movedFiles ⟨"a/ep1.json"⟩).2 = .ok () ∧
      (movedLibrary.loadFile movedFiles ⟨"a/ep1.json"⟩).1.story? "ep1" = some [] ∧
      ((movedLibrary.loadFile movedFiles ⟨"a/ep1.json"⟩).1.loadFile movedFiles ⟨"b/ep1.json"⟩).2 =
        .error (.collision "ep1" ⟨"a/ep1.json"⟩ ⟨"b/ep1.json"⟩) := by
  have hfile : movedFiles.isFile ⟨"a/ep1.json"⟩ = false := by decide +kernel
  exact ⟨hfile, loadsNothing hfile, by decide +kernel, by decide +kernel, by decide +kernel,
    by decide +kernel⟩

/-- A story that is not there does not fail to load. -/
theorem not_loadFile_fails :
    ¬ ∀ (library : Library) (tree : FileTree) (path : Path), tree.isFile path = false →
        (∃ error, (library.loadFile tree path).2 = .error error) ∧
          (library.loadFile tree path).1.stories = library.stories ∧
          (library.loadFile tree path).1.sources = library.sources := by
  intro hall
  obtain ⟨⟨error, herror⟩, _⟩ := hall movedLibrary movedFiles ⟨"a/ep1.json"⟩ (by decide +kernel)
  have hok : (movedLibrary.loadFile movedFiles ⟨"a/ep1.json"⟩).2 = .ok () := by decide +kernel
  cases hok.symm.trans herror

end Library

end VisualNovel
