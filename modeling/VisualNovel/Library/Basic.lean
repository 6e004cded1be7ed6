/-
# Libraries of stories

A library holds reference tables and stories by name. A story that is loaded from a file is called
like the file, and remembers the file: no other file may take its place, while the same one may be
loaded again. Files that are not there are empty.

Loading stops at the first error. Tables read before an error stay, and so do the stories of a
directory that were loaded before one of its files failed.
-/

import VisualNovel.Library.Content
import VisualNovel.Staging.Story

namespace VisualNovel

/-- Reference tables, and stories by name. -/
structure Library where
  tables : ReferenceTables := .empty
  stories : Std.ExtTreeMap String (List Row) := ∅
  /-- The files that stories were loaded from. -/
  sources : Std.ExtTreeMap String Path := ∅

namespace Library

/-- Reads tables from a directory, one file after the other. -/
def loadFiles (tree : FileTree) (directory : Path) (tables : ReferenceTables) :
    List TableFile → ReferenceTables × Except LibraryError Unit
  | [] => (tables, .ok ())
  | file :: files =>
    match file.read tree (directory.join file.name) with
    | .error error => (tables, .error error)
    | .ok change => loadFiles tree directory (change tables) files

/-- Reads all tables from a directory. -/
def loadTables (library : Library) (tree : FileTree) (directory : Path) :
    Library × Except LibraryError Unit :=
  let (tables, result) := loadFiles tree directory library.tables TableFile.all
  ({ library with tables }, result)

/-- The file that the name stands for, if that is another one than the given. -/
def rival? (library : Library) (name : String) (path : Path) : Option Path :=
  library.sources[name]?.filter fun source => source.components ≠ path.components

/-- Puts a story into the library without a file. -/
def insertStory (library : Library) (name : String) (rows : List Row) : Library :=
  { library with stories := library.stories.insert name rows }

/-- Remembers the file that a story is loaded from. -/
def recordSource (library : Library) (name : String) (path : Path) : Library :=
  { library with sources := library.sources.insert name path }

/-- What is left of the library when a story is loaded from a file, and whether that succeeds. -/
def loadFile (library : Library) (tree : FileTree) (path : Path) :
    Library × Except LibraryError Unit :=
  match path.stem? with
  | none => (library, .error (.unnamed path))
  | some name =>
    match library.rival? name path with
    | some source => (library, .error (.collision name source path))
    | none =>
      match Content.readList tree path Row.ofJson? with
      | .error error => (library, .error error)
      | .ok rows => ((library.recordSource name path).insertStory name rows, .ok ())

/-- The library with a story from a file. -/
def loadStory (library : Library) (tree : FileTree) (path : Path) :
    Except LibraryError Library :=
  let (library, result) := library.loadFile tree path
  result.map fun _ => library

/-- Loads stories from files. -/
def loadStories (library : Library) (tree : FileTree) :
    List Path → Library × Except LibraryError Unit
  | [] => (library, .ok ())
  | path :: paths =>
    match library.loadFile tree path with
    | (library, .error error) => (library, .error error)
    | (library, .ok ()) => library.loadStories tree paths

/-- Whether a path is that of a story, by its extension. -/
def isStoryPath (path : Path) : Bool := path.extension? = some "json"

/-- Loads the stories among the files that are met on a walk, in its order. The result is their
number. -/
def loadWalk (library : Library) (tree : FileTree) (walk : List Path) :
    Library × Except LibraryError Nat :=
  let paths := walk.filter fun path => tree.isFile path && isStoryPath path
  let (library, result) := library.loadStories tree paths
  (library, result.map fun _ => paths.length)

/-- Loads all stories at and below a path. The result is the number of their files. -/
def loadProject (library : Library) (tree : FileTree) (root : Path) :
    Library × Except LibraryError Nat :=
  library.loadWalk tree (tree.filesBelow root)

/-- The rows of a story. -/
def story? (library : Library) (name : String) : Option (List Row) := library.stories[name]?

/-- The names of the stories in ascending order. -/
def names (library : Library) : List String := library.stories.keys

/-- Stages a story. -/
def stage (library : Library) (name : String) (settings : PlayerSettings) :
    Except LibraryError Story :=
  match library.story? name with
  | none => .error (.notLoaded name)
  | some rows =>
    (Story.ofRows { tables := library.tables, settings } rows).mapError (.notStaged name)

end Library

end VisualNovel
