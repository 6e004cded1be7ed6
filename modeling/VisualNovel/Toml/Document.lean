/-
# The meaning of a document

A document is a sequence of statements: headers, which open a table or one more table of an array of
tables, and assignments to keys of the open table. A path of keys makes the tables on its way where
they are missing. No table may be defined twice: a header may only define a table that earlier
headers have passed through, an assignment through a path may only pass through tables that were
made on the way, and may only end in a table that such assignments have made. What an assignment
gives as a value, be it an array or a table, is closed.
-/

import VisualNovel.Toml.Basic

namespace VisualNovel.Toml

/-- How a table has come about. -/
inductive Origin
  /-- On the way of a header. -/
  | passed
  /-- On the way of an assignment. -/
  | dotted
  /-- By a header of its own. -/
  | header
  deriving DecidableEq, Repr

/-- What a key stands for while the document is read. -/
inductive Node
  | value (value : Toml)
  | table (origin : Origin) (entries : List (String × Node))
  /-- An array of tables, latest first. -/
  | tables (elements : List (List (String × Node)))

/-- The keys of a table in the order in which they were first used. -/
abbrev Entries := List (String × Node)

mutual

/-- The finished value. -/
def Node.toToml : Node → Toml
  | .value value => value
  | .table _ entries => .table (finished entries)
  | .tables elements => .array (finishedTables elements).reverse

/-- The finished values of the keys. -/
def finished : Entries → List (String × Toml)
  | [] => []
  | (key, node) :: rest => (key, node.toToml) :: finished rest

/-- The finished tables. -/
def finishedTables : List Entries → List Toml
  | [] => []
  | entries :: rest => .table (finished entries) :: finishedTables rest

end

/-- A statement of a document. -/
inductive Statement
  /-- Opens a table. -/
  | header (path : List String) (key : String)
  /-- Opens one more table of an array. -/
  | element (path : List String) (key : String)
  | assign (path : List String) (key : String) (value : Toml)

namespace Entries

/-- Changes what the key stands for, unless the change refuses. -/
def alter? (key : String) (change : Option Node → Option Node) : Entries → Option Entries
  | [] => (change none).map fun node => [(key, node)]
  | (other, node) :: rest =>
    if other = key then (change (some node)).map fun node => (key, node) :: rest
    else (alter? key change rest).map ((other, node) :: ·)

/-- Changes the table at the end of the path, of which the change is told the origin. -/
def within? (making : Origin) (change : Origin → Entries → Option Entries) :
    (path : List String) → (origin : Origin) → Entries → Option Entries
  | [], origin, entries => change origin entries
  | key :: path, _, entries =>
    entries.alter? key fun
      | none => (within? making change path making []).map (.table making)
      | some (.table origin inner) =>
        if making = .dotted && origin = .header then none
        else (within? making change path origin inner).map (.table origin)
      | some (.tables (last :: earlier)) =>
        (within? making change path .header last).map fun last => .tables (last :: earlier)
      | some _ => none

/-- Opens the table of a header. -/
def openTable? (path : List String) (key : String) (root : Entries) : Option Entries :=
  root.within? .passed (fun _ entries => entries.alter? key fun
    | none => some (.table .header [])
    | some (.table .passed inner) => some (.table .header inner)
    | some _ => none) path .header

/-- Opens one more table of an array of tables. -/
def openElement? (path : List String) (key : String) (root : Entries) : Option Entries :=
  root.within? .passed (fun _ entries => entries.alter? key fun
    | none => some (.tables [[]])
    | some (.tables elements) => some (.tables ([] :: elements))
    | some _ => none) path .header

/-- Gives a key of the table its value. -/
def assign? (path : List String) (key : String) (value : Toml) (entries : Entries) :
    Option Entries :=
  entries.within? .dotted (fun origin entries =>
    if path.isEmpty || origin = .dotted then
      entries.alter? key fun
        | none => some (.value value)
        | some _ => none
    else none) path .header

end Entries

/-- A document and the table that is open. -/
structure Document where
  root : Entries := []
  current : List String := []

namespace Document

/-- The document after one more statement, unless that is not allowed. -/
def after? (document : Document) : Statement → Option Document
  | .header path key =>
    (document.root.openTable? path key).map fun root => { root, current := path ++ [key] }
  | .element path key =>
    (document.root.openElement? path key).map fun root => { root, current := path ++ [key] }
  | .assign path key value =>
    (document.root.within? .passed (fun _ entries => entries.assign? path key value)
      document.current .header).map fun root => { document with root }

/-- The keys and values that the statements define, if all of them are allowed. -/
def ofStatements? (statements : List Statement) : Option (List (String × Toml)) :=
  (statements.foldlM Document.after? {}).map fun document => finished document.root

/-- The table that assignments alone define. -/
def inlineTable? (assignments : List (List String × String × Toml)) : Option Toml :=
  (assignments.foldlM (fun entries (path, key, value) => Entries.assign? path key value entries)
    []).map fun entries => .table (finished entries)

end Document

end VisualNovel.Toml
