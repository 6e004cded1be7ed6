/-
# What a run of the command does

A run makes its files first: the configuration where there is nothing of that name, and the log with
the directories above it. Then it only reads. So what a run answers can be told from the files that
it leaves behind: the configuration that they hold, the tables and the stories that are loaded from
them, and what the command line mentions.

A run answers or it fails, and then it writes nothing. Either way the files that were there before
stay as they were. All this holds whatever counts as a pattern in the filter of the log, which shows
in the notices alone. Nothing is claimed of the content of the log.
-/

import Mathlib.Data.List.Sort
import VisualNovel.Proofs.Command.Arguments
import VisualNovel.Proofs.Command.Printing
import VisualNovel.Proofs.Config.Store
import VisualNovel.Proofs.Files.Change
import VisualNovel.Proofs.Library.Content

namespace VisualNovel

namespace Library

variable {library : Library}

theorem stage_eq_ok_iff {name : String} {settings : PlayerSettings} {story : Story} :
    library.stage name settings = .ok story ↔
      ∃ rows, library.story? name = some rows ∧
        Story.ofRows { tables := library.tables, settings } rows = .ok story := by
  unfold stage
  cases library.story? name with
  | none => simp
  | some rows => simp [Content.mapError_eq_ok_iff]

end Library

namespace Command

variable {tree other : FileTree} {store : ConfigStore} {words : List String}
  {made : List FileTree.Location} {check : PatternCheck}

/-- Where the configuration is. -/
def configPlace : FileTree.Location := ["config.toml"]

/-- The configuration of a tree. -/
def storeOf (tree : FileTree) : ConfigStore := (loadConfig tree).1

/-- The part of it on files. -/
def systemOf (tree : FileTree) : SystemConfig :=
  (storeOf tree).get SystemConfig DefaultConfig.systemName

theorem locate_configPath (tree : FileTree) : tree.locate configPath = .ok configPlace := by
  have hsteps : configPath.steps = [.name "config.toml"] := by decide +kernel
  refine FileTree.locate_eq_ok_iff.mpr ⟨⟨?_, by decide⟩, ?_⟩
  · exact FileTree.validate_eq_ok_iff.mpr (by decide +kernel)
  · rw [hsteps]
    exact FileTree.locationIn_eq_ok (by decide +kernel)

theorem namesDirectory_configPath : configPath.namesDirectory = false := by decide +kernel

/-- What is found of the configuration is what is in its place. -/
theorem find_configPath (tree : FileTree) :
    tree.find configPath = match tree.get? configPlace with
      | some found => .ok found
      | none => .error .notFound := by
  rw [FileTree.find, locate_configPath]
  simp only [bind, Except.bind, namesDirectory_configPath, Bool.false_eq_true, if_false]
  cases tree.get? configPlace with
  | none => rfl
  | some found => cases found <;> rfl

theorem contains_configPath (tree : FileTree) :
    tree.contains configPath = (tree.get? configPlace).isSome := by
  rw [FileTree.contains, find_configPath]
  cases tree.get? configPlace <;> rfl

/-- The configuration depends on its file alone, and is none if it is a directory. -/
theorem loadConfig_eq_of_content?
    (hsame : (tree.get? configPlace).map FileTree.content? =
      (other.get? configPlace).map FileTree.content?) :
    loadConfig tree = loadConfig other := by
  have htext : configText tree configPath = configText other configPath := by
    rw [configText, configText, contains_configPath, contains_configPath, FileTree.read,
      FileTree.read, find_configPath, find_configPath]
    cases hfound : tree.get? configPlace with
    | none =>
      cases hother : other.get? configPlace with
      | none => rfl
      | some inner => rw [hfound, hother] at hsame; cases hsame
    | some found =>
      cases hother : other.get? configPlace with
      | none => rw [hfound, hother] at hsame; cases hsame
      | some inner =>
        rw [hfound, hother] at hsame
        cases found <;> cases inner <;> cases hsame <;> rfl
  rw [loadConfig, loadConfig, htext]

/-- There is a configuration afterwards, unless the root is no directory. -/
theorem isSome_or_exists_file_of_ensureConfig (tree : FileTree) :
    ((ensureConfig tree).1.get? configPlace).isSome ∨
      ∃ content, (ensureConfig tree).1 = .file content := by
  unfold ensureConfig
  rw [contains_configPath]
  cases hfound : tree.get? configPlace with
  | some found => exact .inl (by simp [hfound])
  | none =>
    rw [FileTree.write_eq_ok_of_free (locate_configPath tree) namesDirectory_configPath hfound]
    cases tree with
    | file content => exact .inr ⟨content, rfl⟩
    | directory entries =>
      refine .inl ?_
      simp [configPlace, FileTree.put, FileTree.get?, FileTree.lookup_alter]

/-- Whatever is made besides does not change the configuration. -/
theorem loadConfig_of_extends (hextends : FileTree.Extends (ensureConfig tree).1 other made) :
    loadConfig other = loadConfig (ensureConfig tree).1 := by
  refine loadConfig_eq_of_content? ?_
  rcases isSome_or_exists_file_of_ensureConfig tree with hconfig | ⟨content, hroot⟩
  · obtain ⟨found, hfound⟩ := Option.isSome_iff_exists.mp hconfig
    obtain ⟨same, hsame, hcontent⟩ := hextends.kept configPlace found hfound
    rw [hfound, hsame, Option.map_some, Option.map_some, hcontent]
  · rw [hroot] at hextends ⊢
    rw [hextends.eq_file]

/-- The path of the log. -/
def logPath (system : SystemConfig) : Path := (Path.mk system.logs).join logName

theorem namesDirectory_logPath (system : SystemConfig) :
    (logPath system).namesDirectory = false :=
  Path.namesDirectory_join (by decide +kernel)

/-- Opening the log makes no other file. It fails exactly if the path of the log leads nowhere or to
a directory. -/
theorem extends_openLog (check : PatternCheck) (tree : FileTree) (system : SystemConfig) :
    let result := openLog check tree system
    (∃ made, FileTree.Extends tree result.1 made ∧
      ∀ place ∈ made, result.1.locate (logPath system) = .ok place) ∧
    (result.2.2 = .ok () ↔ ∃ place, result.1.locate (logPath system) = .ok place ∧
      ∀ entries, result.1.get? place ≠ some (.directory entries)) := by
  have hdirectories := FileTree.extends_makeDirectories tree ⟨system.logs⟩
  have hname := namesDirectory_logPath system
  unfold openLog
  dsimp only
  rw [← logPath]
  cases hopened : ((tree.makeDirectories ⟨system.logs⟩).1).openForAppend (logPath system) with
  | error reason =>
    refine ⟨⟨[], hdirectories, by simp⟩, ?_⟩
    simp only [reduceCtorEq, false_iff, not_exists, not_and, not_forall, not_not]
    exact fun place hlocate =>
      FileTree.exists_directory_of_openForAppend hname hopened hlocate
  | ok opened =>
    obtain ⟨place, hlocate, hextends, hfile⟩ := FileTree.openForAppend_eq_ok hname hopened
    have hstill := hextends.locate hlocate
    refine ⟨⟨[place], hdirectories.trans hextends, ?_⟩, ?_⟩
    · intro other hother
      cases List.mem_singleton.mp hother
      exact hstill
    · exact iff_of_true rfl ⟨place, hstill, hfile⟩

/-- The tree of a run when its files are made, the notices of that, and whether the log is open. -/
def opening (check : PatternCheck) (tree : FileTree) :
    FileTree × String × Except CommandError Unit :=
  openLog check (ensureConfig tree).1 (systemOf (ensureConfig tree).1)

/-- The files that are made do not change the configuration. -/
theorem storeOf_opening (check : PatternCheck) (tree : FileTree) :
    storeOf (opening check tree).1 = storeOf (ensureConfig tree).1 := by
  obtain ⟨⟨made, hextends, _⟩, _⟩ :=
    extends_openLog check (ensureConfig tree).1 (systemOf (ensureConfig tree).1)
  exact congrArg Prod.fst (loadConfig_of_extends hextends)

/-- A run whose arguments make sense opens its files and serves. -/
theorem exists_run_eq (check : PatternCheck) (tree : FileTree) {arguments : Arguments}
    (hparse : Arguments.parse words = .ok arguments) :
    ∃ notices, run check tree words = finish (opening check tree).1 notices
      (quietly (opening check tree).2.2 >>= fun _ =>
        serve (opening check tree).1 (storeOf (opening check tree).1) arguments) := by
  refine ⟨(ensureConfig tree).2 ++ (loadConfig (ensureConfig tree).1).2
    ++ (opening check tree).2.1, ?_⟩
  rw [storeOf_opening]
  simp only [run, hparse]
  rfl

theorem openLog_of_check (check other : PatternCheck) (tree : FileTree) (system : SystemConfig) :
    ∃ notices, openLog other tree system =
      ((openLog check tree system).1, notices, (openLog check tree system).2.2) := by
  unfold openLog
  dsimp only
  split <;> exact ⟨_, rfl⟩

/-- What counts as a pattern makes a difference to the error output alone. -/
theorem run_of_check (check other : PatternCheck) (tree : FileTree) (words : List String) :
    ∃ errors, run other tree words = { run check tree words with errors } := by
  cases hparse : Arguments.parse words with
  | error error => exact ⟨(run check tree words).errors, by simp only [run, hparse]⟩
  | ok arguments =>
    obtain ⟨notices, hrun⟩ := exists_run_eq check tree hparse
    obtain ⟨otherNotices, hother⟩ := exists_run_eq other tree hparse
    obtain ⟨logged, hopening⟩ := openLog_of_check check other (ensureConfig tree).1
      (systemOf (ensureConfig tree).1)
    rw [hrun, hother, opening, hopening]
    exact exists_finish_eq notices otherNotices

/-- Without the name of a story the stories are listed, even if JSON is asked for. -/
example :
    let story := FileTree.file (.ok "[]".toUTF8)
    let stories := FileTree.directory [("b.json", story), ("a.json", story)]
    let tree := FileTree.directory [("config.toml", .file (.ok .empty)), ("story", stories)]
    (run (fun _ => none) tree ["--json"]).output = "a\nb\n" := by
  decide +kernel

end Command
end VisualNovel
