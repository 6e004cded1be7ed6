/-
# File trees

The files that the program works on are a tree of directories. Paths are looked up from the root of
the tree, which is the directory that the program runs in; what lies outside of it is not there. The
operations fail as those of an operating system do, and say why.
-/

import VisualNovel.Files.Path

namespace VisualNovel

/-- Why an operation on a file fails. -/
inductive FileError
  | notFound
  | exists
  | notDirectory
  | isDirectory
  /-- The path or a name in it has too many bytes. -/
  | nameTooLong
  /-- The path has a NUL, which no name has. -/
  | nulInName
  /-- The file is not for the program to read. -/
  | denied
  /-- The bytes of the file are not the text of any characters. -/
  | notText
  deriving DecidableEq, Repr

/-- What reading a file gives: its bytes, or why they cannot be had. -/
abbrev FileContent := Except FileError ByteArray

/-- A file, or a directory with its entries. -/
inductive FileTree
  | file (content : FileContent)
  | directory (entries : List (String × FileTree))
  deriving Inhabited

/-- The error in words. -/
def FileError.message : FileError → String
  | notFound => "No such file or directory (os error 2)"
  | .exists => "File exists (os error 17)"
  | notDirectory => "Not a directory (os error 20)"
  | isDirectory => "Is a directory (os error 21)"
  | nameTooLong => "File name too long (os error 36)"
  | nulInName => "file name contained an unexpected NUL byte"
  | denied => "Permission denied (os error 13)"
  | notText => "stream did not contain valid UTF-8"

namespace FileTree

/-- Names that lead from the root of a tree to a file or directory in it. -/
abbrev Location := List String

/-- What there is at a location. -/
def get? : FileTree → Location → Option FileTree
  | tree, [] => some tree
  | .file _, _ :: _ => none
  | .directory entries, name :: rest => (entries.lookup name).bind (·.get? rest)

/-- Changes the entry with the given name, which is added if it is missing. -/
def alter (name : String) (change : Option FileTree → FileTree) :
    List (String × FileTree) → List (String × FileTree)
  | [] => [(name, change none)]
  | (other, tree) :: rest =>
    if other = name then (name, change (some tree)) :: rest
    else (other, tree) :: alter name change rest

/-- The tree with something new at a location below directories. -/
def put (new : FileTree) : FileTree → Location → FileTree
  | _, [] => new
  | .file content, _ :: _ => .file content
  | .directory entries, name :: rest =>
    .directory (alter name (fun old => put new (old.getD (.directory [])) rest) entries)

/-- The most bytes that a name has. -/
def longestName : Nat := 255

/-- The most bytes that a path has. -/
def longestPath : Nat := 4095

/-- The location of a name in the directory at a location. -/
def locationIn (place : Location) (name : String) : Except FileError Location :=
  if longestName < name.utf8ByteSize then .error .nameTooLong else .ok (place ++ [name])

/-- The location of the directory to which a step leads from the directory at a location. -/
def enter (tree : FileTree) (place : Location) : PathComponent → Except FileError Location
  | .root => .error .notFound
  | .current => .ok place
  | .parent => if place.isEmpty then .error .notFound else .ok place.dropLast
  | .name name => do
    let next ← locationIn place name
    match tree.get? next with
    | some (.directory _) => .ok next
    | some (.file _) => .error .notDirectory
    | none => .error .notFound

/-- Follows steps from the directory at a location. All but the last have to lead to directories;
the last may be the name of something that is not there. -/
def follow (tree : FileTree) (place : Location) :
    List PathComponent → Except FileError Location
  | [] => .ok place
  | [.name name] => locationIn place name
  | step :: rest => do tree.follow (← tree.enter place step) rest

/-- Refuses a path that no file can have. -/
def validate (path : Path) : Except FileError Unit :=
  if path.text.toList.contains '\x00' then .error .nulInName
  else if longestPath < path.text.utf8ByteSize then .error .nameTooLong
  else .ok ()

/-- The location that a path leads to. -/
def locate (tree : FileTree) (path : Path) : Except FileError Location := do
  validate path
  if path.text.isEmpty then .error .notFound else tree.follow [] path.steps

/-- What there is at a path. -/
def find (tree : FileTree) (path : Path) : Except FileError FileTree := do
  let place ← tree.locate path
  match tree.get? place with
  | none => .error .notFound
  | some (.file content) =>
    if path.namesDirectory then .error .notDirectory else .ok (.file content)
  | some (.directory entries) => .ok (.directory entries)

/-- Whether there is anything at a path. -/
def contains (tree : FileTree) (path : Path) : Bool := (tree.find path).toOption.isSome

/-- Whether there is a file at a path. -/
def isFile (tree : FileTree) (path : Path) : Bool :=
  match tree.find path with
  | .ok (.file _) => true
  | _ => false

/-- The text of a file. -/
def read (tree : FileTree) (path : Path) : Except FileError String := do
  match ← tree.find path with
  | .directory _ => .error .isDirectory
  | .file content =>
    match String.fromUTF8? (← content) with
    | some text => .ok text
    | none => .error .notText

/-- What a change leaves of a tree, which is the tree itself if the change fails. -/
def attempt (tree : FileTree) (change : FileTree → Except FileError FileTree) :
    FileTree × Except FileError Unit :=
  match change tree with
  | .ok changed => (changed, .ok ())
  | .error reason => (tree, .error reason)

/-- Makes a directory at the end of the steps. What lies above it has to be there. -/
def makeDirectory (tree : FileTree) (steps : List PathComponent) : Except FileError FileTree := do
  let place ← steps.dropLast.foldlM tree.enter []
  match steps.getLast? with
  | some (.name name) =>
    let next ← locationIn place name
    match tree.get? next with
    | some _ => .error .exists
    | none => .ok (put (.directory []) tree next)
  | _ => .error .exists

/-- Makes a directory at the end of the steps unless there is one. -/
def ensureDirectory (tree : FileTree) (steps : List PathComponent) :
    Except FileError FileTree :=
  match tree.makeDirectory steps with
  | .ok tree => .ok tree
  | .error reason =>
    match steps.foldlM tree.enter [] with
    | .ok _ => .ok tree
    | .error _ => .error reason

/-- Makes a directory at the end of the steps, which are given latest first, and those above it,
unless they are there. What is made before something fails stays. -/
def ensureDirectories (tree : FileTree) :
    List PathComponent → FileTree × Except FileError Unit
  | [] => (tree, .ok ())
  | last :: before =>
    let make (tree : FileTree) := tree.attempt (·.ensureDirectory (last :: before).reverse)
    match make tree with
    | (_, .error .notFound) =>
      match tree.ensureDirectories before with
      | (tree, .ok ()) => make tree
      | failed => failed
    | result => result

/-- Makes the directory at a path and all those above it, which are those at the steps without dots.
The empty path needs none. What is made before something fails stays. -/
def makeDirectories (tree : FileTree) (path : Path) : FileTree × Except FileError Unit :=
  match validate path with
  | .error reason => (tree, .error reason)
  | .ok () =>
    if path.text.isEmpty then (tree, .ok ())
    else
      let make (tree : FileTree) := tree.attempt (·.ensureDirectory path.steps)
      match make tree with
      | (_, .error .notFound) =>
        match tree.ensureDirectories path.dotless.dropLast.reverse with
        | (tree, .ok ()) => make tree
        | failed => failed
      | result => result

example :
    ((directory []).makeDirectories ⟨"a/./b"⟩).1.contains ⟨"a/b/"⟩ = true ∧
    ((directory []).makeDirectories ⟨"new/."⟩).2.toOption = none := by decide +kernel

/-- Opens a file for writing at its end, and makes it empty if it is not there. -/
def openForAppend (tree : FileTree) (path : Path) : Except FileError FileTree := do
  let place ← tree.locate path
  match tree.get? place with
  | some (.directory _) => .error .isDirectory
  | some (.file _) => if path.namesDirectory then .error .notDirectory else .ok tree
  | none =>
    if path.namesDirectory then .error .isDirectory else .ok (put (.file (.ok .empty)) tree place)

/-- Writes a new text to a file. -/
def write (tree : FileTree) (path : Path) (text : String) : Except FileError FileTree := do
  let tree ← tree.openForAppend path
  let place ← tree.locate path
  return put (.file (.ok text.toUTF8)) tree place

mutual

/-- All files of a tree that is shown by the given path. -/
def files (shown : Path) : FileTree → List Path
  | .file _ => [shown]
  | .directory entries => filesOf shown entries

/-- All files of the entries of a directory. -/
def filesOf (directory : Path) : List (String × FileTree) → List Path
  | [] => []
  | (name, tree) :: rest => tree.files (directory.join name) ++ filesOf directory rest

end

/-- All files at and below a path, none if there is nothing there. -/
def filesBelow (tree : FileTree) (path : Path) : List Path :=
  match tree.find path with
  | .ok found => found.files path
  | .error _ => []

end FileTree

end VisualNovel
