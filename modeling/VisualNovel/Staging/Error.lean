/-
# What can be wrong with a row

A script may call a character that the tables do not know, or address a slot in which nobody has
stood yet; then its story cannot be staged. A malformed line among the answers of a choice is only
left out and reported. Every report names the row and quotes its script.
-/

import VisualNovel.Text.Quoted

namespace VisualNovel

/-- What is wrong with a script. -/
inductive StagingFault
  /-- No character has the name. -/
  | unknownName (name : String)
  /-- The name has a number, but no character has the number. -/
  | unknownCharacter (id : UInt64)
  /-- Nobody has stood in the slot yet. -/
  | emptySlot (position : UInt8)
  /-- The line is no answer of a choice. -/
  | malformedOption (line : String)
  deriving DecidableEq, Repr

/-- A fault and where it is. -/
structure StagingError where
  /-- The number of the row, counted from zero. -/
  row : Nat
  /-- The script of the row. -/
  script : String
  fault : StagingFault
  deriving DecidableEq, Repr

namespace StagingFault

/-- The table in which something was not found, and what that was. -/
def missing? : StagingFault → Option (String × String)
  | unknownName name => some ("character name", name)
  | unknownCharacter id => some ("character", toString id.toNat)
  | _ => none

/-- Whether staging goes on past the fault. -/
def isRecoverable : StagingFault → Bool
  | malformedOption _ => true
  | _ => false

/-- The fault in words. -/
def message : StagingFault → String
  | unknownName name => "`" ++ name ++ "` is not present in the character name table"
  | unknownCharacter id => "`" ++ toString id.toNat ++ "` is not present in the character table"
  | emptySlot position =>
    "slot " ++ toString position.toNat ++ " was never declared by an earlier row"
  | malformedOption line => "option line " ++ Text.quotedString line ++ " is malformed"

end StagingFault

/-- The report of an error. -/
def StagingError.message (error : StagingError) : String :=
  "row " ++ toString error.row ++ ": " ++ error.fault.message ++ " (script: "
    ++ Text.quotedString error.script ++ ")"

end VisualNovel
