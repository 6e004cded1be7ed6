/-
# What can go wrong with a library

A file may be unreadable or hold something else than it should, two files may be called like the
same story, and a story that is asked for may not be there or not be stageable. Every error has a
message of its own, and some have a cause.
-/

import VisualNovel.Files.Tree
import VisualNovel.Json.Fault
import VisualNovel.Staging.Error

namespace VisualNovel

/-- What is wrong with the content of a file. -/
inductive ContentFault
  /-- The text is no JSON, or is nested too deeply, or has a value that is not of the type of
  all. -/
  | inText (error : Json.TextError)
  /-- The value is no list of records. -/
  | noList
  deriving DecidableEq, Repr

/-- What can go wrong with a library. -/
inductive LibraryError
  | unreadable (path : Path) (reason : FileError)
  | malformed (path : Path) (fault : ContentFault)
  /-- The path does not end in a name. -/
  | unnamed (path : Path)
  /-- Two files are called like the same story. -/
  | collision (story : String) (first second : Path)
  | notLoaded (story : String)
  | notStaged (story : String) (error : StagingError)
  deriving DecidableEq, Repr

/-- The fault in words. -/
def ContentFault.message : ContentFault → String
  | inText error => error.message
  | noList => "data did not match any variant of untagged enum ListFile"

namespace LibraryError

/-- The message of the error itself. -/
def message : LibraryError → String
  | unreadable path _ => "Failed to read " ++ path.quoted
  | malformed path _ => "Failed to parse " ++ path.quoted
  | unnamed path => "Story path has no file name: " ++ path.quoted
  | collision story first second =>
    "Story collision detected!\n  Story '" ++ story ++ "' is defined in:\n    1. " ++ first.quoted
      ++ "\n    2. " ++ second.quoted
  | notLoaded story => "Story '" ++ story ++ "' is not loaded"
  | notStaged story _ => "Failed to translate story '" ++ story ++ "'"

/-- The message of what caused the error. -/
def cause? : LibraryError → Option String
  | unreadable _ reason => some reason.message
  | malformed _ fault => some fault.message
  | notStaged _ error => some error.message
  | _ => none

end LibraryError

end VisualNovel
