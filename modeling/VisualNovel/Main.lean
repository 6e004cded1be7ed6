/-
# The command line

The command runs on the files below its directory: they are read before the run, and those that the
run has made are written after it.
-/

import VisualNovel.Command.Run
import VisualNovel.Pattern.Check

namespace VisualNovel.Main

/-- What reading a file gives. Any other trouble than a missing permission ends the run. -/
def contentOf (path : String) : IO FileContent :=
  tryCatch (.ok <$> IO.FS.readBinFile path) fun
    | .permissionDenied .. => return .error .denied
    | error => throw error

/-- The entries of a directory. A link to a file is such a file; links that lead elsewhere are left
out, and so is what is neither a file nor a directory. -/
partial def entriesOf (directory : String) : IO (List (String × FileTree)) := do
  let mut entries := []
  for entry in ← (← IO.FS.realPath directory).readDir do
    if (← entry.path.symlinkMetadata).type == .dir then
      entries := (entry.fileName, .directory (← entriesOf entry.path.toString)) :: entries
    else if (← entry.path.metadata.toBaseIO).toOption.any (·.type == .file) then
      entries := (entry.fileName, .file (← contentOf entry.path.toString)) :: entries
  return entries.reverse

/-- Writes a file that was not there before, and makes its directory. -/
def create (tree : FileTree) (path : Path) : IO Unit := do
  let directory := path.parts.dropLast
  unless directory.isEmpty do
    IO.FS.createDirAll ("/".intercalate directory)
  match tree.get? path.parts with
  | some (.file (.ok content)) => IO.FS.writeBinFile path.text content
  | _ => pure ()

end VisualNovel.Main

open VisualNovel in
/-- Runs the command in the current directory. -/
def main (arguments : List String) : IO UInt32 := do
  let tree := FileTree.directory (← Main.entriesOf ".")
  let outcome := Command.run Pattern.report? tree arguments
  let before := tree.files ⟨""⟩
  for path in outcome.tree.files ⟨""⟩ do
    unless before.contains path do
      Main.create outcome.tree path
  IO.print outcome.output
  IO.eprint outcome.errors
  return outcome.exitCode
