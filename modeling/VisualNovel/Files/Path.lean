/-
# Paths

A path is kept as it was given, because messages show it so. Its steps say how it is followed, one
for every part between slashes. Two paths are compared by their components, which are the steps
without the dots, a dot at the start excepted.
-/

import VisualNovel.Text.Quoted

namespace VisualNovel

/-- A step of a path. -/
inductive PathComponent
  /-- The root of all directories. -/
  | root
  /-- The current directory. -/
  | current
  /-- The directory above. -/
  | parent
  | name (name : String)
  deriving DecidableEq, Repr

/-- A path as it is written. -/
structure Path where
  text : String
  deriving DecidableEq, Repr

namespace Path

/-- The parts of the path between its slashes, empty ones left out. -/
def parts (path : Path) : List String :=
  ((path.text.toList.splitOn '/').filter (!·.isEmpty)).map String.ofList

/-- Whether the path starts at the root. -/
def isAbsolute (path : Path) : Bool := path.text.toList.head? = some '/'

/-- The step that a part stands for. -/
def stepOf (part : String) : PathComponent :=
  if part = "." then .current else if part = ".." then .parent else .name part

/-- The steps of the path. -/
def steps (path : Path) : List PathComponent :=
  let steps := path.parts.map stepOf
  if path.isAbsolute then .root :: steps else steps

/-- The steps without dots. -/
def dotless (path : Path) : List PathComponent := path.steps.filter (· ≠ .current)

/-- The components of the path. -/
def components (path : Path) : List PathComponent :=
  if path.steps.head? = some .current then .current :: path.dotless else path.dotless

/-- The last component, if it is a name. -/
def fileName? (path : Path) : Option String :=
  match path.components.getLast? with
  | some (.name name) => some name
  | _ => none

/-- The parts of a file name before and after its last dot. A dot at the start of the name does not
count, and the name then has no second part. -/
def splitName (name : String) : String × Option String :=
  let reversed := name.toList.reverse
  match reversed.dropWhile (· != '.') with
  | [] | ['.'] => (name, none)
  | _ :: stem =>
    (String.ofList stem.reverse, some (String.ofList (reversed.takeWhile (· != '.')).reverse))

/-- The name of the file without its extension. -/
def stem? (path : Path) : Option String := path.fileName?.map fun name => (splitName name).1

/-- The extension of the file. -/
def extension? (path : Path) : Option String := path.fileName?.bind fun name => (splitName name).2

/-- The path of a file in the directory. -/
def join (directory : Path) (name : String) : Path :=
  match directory.text.toList.getLast? with
  | none => ⟨name⟩
  | some '/' => ⟨directory.text ++ name⟩
  | some _ => ⟨directory.text ++ "/" ++ name⟩

/-- Whether the path ends with a slash, and so can only be that of a directory. -/
def namesDirectory (path : Path) : Bool := path.text.toList.getLast? = some '/'

/-- The path in a message. -/
def quoted (path : Path) : String := Text.quotedString path.text

example : (Path.mk "s/a.b.json").stem? = some "a.b" ∧
    (Path.mk "s/.json").extension? = none ∧
    (Path.mk "a//b/./c/").components = (Path.mk "a/b/c").components := by decide +kernel

end Path

end VisualNovel
