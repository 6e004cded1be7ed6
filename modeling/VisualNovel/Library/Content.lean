/-
# The content of table and story files

Tables and stories are lists of records in JSON. The list stands by itself, or in an object under
one of two names. Such a file is read as a whole before it is understood, so every token in it has
to be readable, and nesting is limited. The numbers that names are given are an object in a file of
its own.
-/

import VisualNovel.Json.Direct
import VisualNovel.Library.Error
import VisualNovel.Reference.Tables
import VisualNovel.Story.Row

namespace VisualNovel

namespace Content

variable {α β : Type}

/-- The names under which an object may have a list. -/
def listNames : List String := ["DataList", "content"]

/-- The records of a list. -/
def records? (ofJson? : Json → Option α) (json : Json) : Option (List α) :=
  match json with
  | .obj fields =>
    match Json.Fields.lookup? fields listNames with
    | some (some list) => list.list? ofJson?
    | _ => none
  | json => json.list? ofJson?

/-- What a text holds: a value and nothing after it. The value is understood before the rest of the
text is looked at. -/
def decode (scan : Json.Scan α) (understand : α → Option β) (text : String) :
    Except ContentFault β := do
  let located {γ : Type} (result : Except Json.Fault γ) : Except ContentFault γ :=
    result.mapError fun fault => .inText (fault.locate text)
  let (found, rest) ← located (scan text.toList)
  match understand found with
  | none => .error .noList
  | some value =>
    located (Json.Parser.finish rest)
    return value

/-- What a file holds, if it is there. -/
def read (tree : FileTree) (path : Path) (decode : String → Except ContentFault α) :
    Except LibraryError (Option α) :=
  if tree.contains path then
    match tree.read path with
    | .error reason => .error (.unreadable path reason)
    | .ok text => (decode text).map some |>.mapError (.malformed path)
  else .ok none

/-- The records in a file, none if the file is not there. -/
def readList (tree : FileTree) (path : Path) (ofJson? : Json → Option α) :
    Except LibraryError (List α) :=
  (read tree path (decode (Json.scan .document) (records? ofJson?))).map (·.getD [])

/-- The numbers that names are given in a file; the last one of a name counts. -/
def readNames (tree : FileTree) (path : Path) : Except LibraryError (List (String × UInt64)) :=
  (read tree path (decode (Json.Direct.map Json.Direct.uint64) some)).map (·.getD [])

end Content

/-- A file of a reference table: its name, and how its content changes the tables. -/
structure TableFile where
  name : String
  read : FileTree → Path → Except LibraryError (ReferenceTables → ReferenceTables)

namespace TableFile

/-- A file of records that are inserted one after the other. -/
def ofRecords {α : Type} (name : String) (ofJson? : Json → Option α)
    (insert : ReferenceTables → α → ReferenceTables) : TableFile where
  name
  read tree path :=
    (Content.readList tree path ofJson?).map fun records tables => records.foldl insert tables

/-- The file of names that are given numbers. -/
def names : TableFile where
  name := "CharacterNameTable.json"
  read tree path :=
    (Content.readNames tree path).map fun names tables =>
      names.foldl (fun tables (name, id) => tables.insertName name id) tables

/-- The files of all tables in the order in which they are read. Explicit names come first, so that
they win over the names of characters. -/
def all : List TableFile :=
  [names,
    ofRecords "ScenarioCharacterNameExcelTable.json" CharacterRecord.ofJson?
      ReferenceTables.insertCharacter,
    ofRecords "ScenarioBGNameExcelTable.json" BackgroundRecord.ofJson?
      ReferenceTables.insertBackground,
    ofRecords "BGMExcelTable.json" MusicRecord.ofJson? ReferenceTables.insertMusic,
    ofRecords "ScenarioTransitionExcelTable.json" TransitionRecord.ofJson?
      ReferenceTables.insertTransition,
    ofRecords "ScenarioBGEffectExcelTable.json" BackgroundEffectRecord.ofJson?
      ReferenceTables.insertBackgroundEffect,
    ofRecords "L2dConfig.json" Live2dConfig.ofJson? ReferenceTables.insertLive2dConfig]

end TableFile

end VisualNovel
