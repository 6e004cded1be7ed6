/-
# Running the command

A run takes the files of its directory and its arguments, and results in an exit code, in what is
written to either output, and in the files afterwards. It makes sure of its configuration and its
log, loads the tables and the stories, and then lists the stories or stages one. Log lines are not
modelled: the log is made, and its content is not looked at. So what is counted ahead in a story
that has been staged is left out, because only the log tells it. Of the pattern in the filter of the
log it is only told what is wrong with it, and the check that tells so is given.
-/

import VisualNovel.Command.Arguments
import VisualNovel.Config.Default
import VisualNovel.Config.LogFilter
import VisualNovel.Config.Store
import VisualNovel.Json.Printer
import VisualNovel.Library.Basic

namespace VisualNovel

/-- Why a run fails. -/
inductive CommandError
  | arguments (error : ArgumentError)
  | log (path : Path) (reason : FileError)
  | config (error : ConfigError)
  | library (error : LibraryError)
  deriving DecidableEq, Repr

namespace CommandError

/-- The message of the error itself. -/
def message : CommandError → String
  | arguments error => error.message
  | log path _ => "Failed to open log file " ++ path.quoted
  | config error => error.message
  | library error => error.message

/-- The message of what caused the error. -/
def cause? : CommandError → Option String
  | log _ reason => some reason.message
  | library error => error.cause?
  | _ => none

/-- The report of the error. -/
def report (error : CommandError) : String :=
  "Error: " ++ error.message ++ "\n" ++
    match error.cause? with
    | some cause => "\nCaused by:\n    " ++ cause ++ "\n"
    | none => ""

end CommandError

/-- A part of a run that prints to the output and may fail. What was printed before it fails
stays. -/
abbrev Printing := ExceptT CommandError (StateM String)

/-- What a run results in. -/
structure Outcome where
  exitCode : UInt32
  output : String
  /-- What is written to the error output. -/
  errors : String
  /-- The files after the run. -/
  tree : FileTree

namespace Command

/-- The file of the configuration. -/
def configPath : Path := ⟨"config.toml"⟩

/-- The name of the file of the log. -/
def logName : String := "scenario.log"

/-- Writes the default configuration unless there is a configuration already. -/
def ensureConfig (tree : FileTree) : FileTree × String :=
  if tree.contains configPath then (tree, "")
  else
    let notice := "Creating default configuration at '" ++ configPath.text ++ "'...\n"
    match tree.write configPath DefaultConfig.document with
    | .ok tree => (tree, notice ++ "Config file created successfully.\n")
    | .error reason => (tree, notice ++ "Failed to write config file: " ++ reason.message ++ "\n")

/-- The text of a configuration file, which is empty if the file is not there. -/
def configText (tree : FileTree) (path : Path) : Except FileError String :=
  if tree.contains path then tree.read path else .ok ""

/-- The store filled from the configuration. A configuration that cannot be read leaves it as it
is. -/
def loadConfig (tree : FileTree) : ConfigStore × String :=
  match configText tree configPath with
  | .error reason => ({}, "Config load warning: " ++ reason.message ++ "\n")
  | .ok text =>
    match ConfigStore.fill {} text with
    | .ok store => (store, "")
    | .error error => ({}, "Config load warning: " ++ error.message ++ "\n")

/-- Opens the log in its directory, which is made if it is missing, and sets up its filter. -/
def openLog (check : PatternCheck) (tree : FileTree) (system : SystemConfig) :
    FileTree × String × Except CommandError Unit :=
  let directory : Path := ⟨system.logs⟩
  let (tree, made) := tree.makeDirectories directory
  let notice := match made with
    | .ok () => ""
    | .error reason => "Failed to create log dir: " ++ reason.message ++ "\n"
  let path := directory.join logName
  match tree.openForAppend path with
  | .ok tree =>
    (tree, notice ++ String.join (LogFilter.warnings check system.logLevel.toList), .ok ())
  | .error reason => (tree, notice, .error (.log path reason))

/-- The store in which the language is the given one, if one is given. -/
def chooseLanguage (store : ConfigStore) : Option String → Except ConfigError ConfigStore
  | none => .ok store
  | some language =>
    let reading := store.get ReadingConfig DefaultConfig.readingName
    store.set DefaultConfig.readingName { reading with language }

/-- The library of the configured directories. -/
def loadLibrary (tree : FileTree) (system : SystemConfig) : Except LibraryError Library := do
  let (library, result) := Library.loadTables {} tree ⟨system.data⟩
  result
  let (library, result) := library.loadProject tree ⟨system.stories⟩
  let _ ← result
  return library

/-- What comes of a part of a run, and what is printed after it, if this was printed before. -/
def perform {α : Type} (part : Printing α) (printed : String) : Except CommandError α × String :=
  part.run.run printed

/-- A part of a run that prints nothing. -/
def quietly {α : Type} (result : Except CommandError α) : Printing α := ExceptT.mk (pure result)

/-- Prints a line. -/
def printLine (line : String) : Printing Unit := modify (· ++ line ++ "\n")

/-- Prints what the arguments ask for. -/
def answer (library : Library) (reading : ReadingConfig) (arguments : Arguments) :
    Printing Unit :=
  match arguments.story with
  | none => library.names.forM printLine
  | some name => do
    let story ← quietly ((library.stage name reading.settings).mapError .library)
    if arguments.json then printLine story.toJson.pretty

/-- Serves the arguments once the configuration is loaded. -/
def serve (tree : FileTree) (store : ConfigStore) (arguments : Arguments) : Printing Unit := do
  let store ← quietly ((chooseLanguage store arguments.language).mapError .config)
  let system := store.get SystemConfig DefaultConfig.systemName
  let reading := store.get ReadingConfig DefaultConfig.readingName
  let library ← quietly ((loadLibrary tree system).mapError .library)
  answer library reading arguments

/-- The end of a run with the last part of it, behind some notices. -/
def finish (tree : FileTree) (notices : String) (part : Printing Unit) : Outcome :=
  match perform part "" with
  | (.ok (), output) => { exitCode := 0, output, errors := notices, tree }
  | (.error error, output) =>
    { exitCode := 1, output, errors := notices ++ error.report, tree }

/-- Runs the command on the files of a directory. -/
def run (check : PatternCheck) (tree : FileTree) (arguments : List String) : Outcome :=
  match Arguments.parse arguments with
  | .error error => finish tree "" (quietly (.error (.arguments error)))
  | .ok arguments =>
    let (tree, created) := ensureConfig tree
    let (store, warned) := loadConfig tree
    let system := store.get SystemConfig DefaultConfig.systemName
    let (tree, logged, opened) := openLog check tree system
    finish tree (created ++ warned ++ logged) do
      quietly opened
      serve tree store arguments

end Command

end VisualNovel
