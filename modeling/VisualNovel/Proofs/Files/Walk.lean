/-
# Walks through a tree

A walk shows the files of a tree by paths. In a tree whose entries have names that names can be, and
different ones in one directory, it shows every file below the root of the walk, shows it once, and
shows it by a path that leads back to it, unless the path has become too long to be followed.
-/

import Mathlib.Data.List.Nodup
import VisualNovel.Files.Tree
import VisualNovel.Proofs.Entries
import VisualNovel.Proofs.Files.Path

namespace VisualNovel.FileTree

open VisualNovel.Path

mutual

/-- Whether the entries of every directory have different names, which names can be. -/
def isWellFormed : FileTree → Bool
  | .file _ => true
  | .directory entries => areWellFormed entries

/-- Whether the entries of a directory have different names, and they and everything in them have
names that names can be. -/
def areWellFormed : List (String × FileTree) → Bool
  | [] => true
  | (name, tree) :: rest =>
    decide (IsEntryName name) && decide (name.utf8ByteSize ≤ longestName) &&
      !(rest.map Prod.fst).contains name && tree.isWellFormed && areWellFormed rest

end

variable {tree found : FileTree} {entries : List (String × FileTree)} {name : String}
  {names : List String} {shown path root : Path}

/-- A tree is a file, or a directory of smaller trees. -/
theorem induction {motive : FileTree → Prop} (file : ∀ content, motive (.file content))
    (directory : ∀ entries, (∀ entry ∈ entries, motive entry.2) → motive (.directory entries)) :
    ∀ tree, motive tree
  | .file content => file content
  | .directory entries => directory entries fun entry _ => induction file directory entry.2
termination_by tree => sizeOf tree
decreasing_by
  rename_i hmem
  have hentry := List.sizeOf_lt_of_mem hmem
  have hpair : sizeOf entry.2 < sizeOf entry := by
    cases entry
    simp only [Prod.mk.sizeOf_spec]
    omega
  rw [FileTree.directory.sizeOf_spec]
  omega

theorem areWellFormed_iff :
    areWellFormed entries = true ↔
      (entries.map Prod.fst).Nodup ∧ ∀ entry ∈ entries,
        IsEntryName entry.1 ∧ entry.1.utf8ByteSize ≤ longestName ∧ entry.2.isWellFormed = true := by
  induction entries with
  | nil => simp [areWellFormed]
  | cons first rest ih =>
    obtain ⟨name, tree⟩ := first
    simp only [areWellFormed, Bool.and_eq_true, decide_eq_true_eq, Bool.not_eq_true',
      List.contains_eq_mem, decide_eq_false_iff_not, ih, List.map_cons, List.nodup_cons,
      List.forall_mem_cons]
    constructor
    · rintro ⟨⟨⟨⟨hname, hshort⟩, hnew⟩, htree⟩, hnodup, hrest⟩
      exact ⟨⟨hnew, hnodup⟩, ⟨hname, hshort, htree⟩, hrest⟩
    · rintro ⟨⟨hnew, hnodup⟩, ⟨hname, hshort, htree⟩, hrest⟩
      exact ⟨⟨⟨⟨hname, hshort⟩, hnew⟩, htree⟩, hnodup, hrest⟩

/-- What names lead to is the same when it is looked for in two parts. -/
theorem get?_append (first second : List String) :
    tree.get? (first ++ second) = (tree.get? first).bind (·.get? second) := by
  induction first generalizing tree with
  | nil => cases tree <;> simp [get?]
  | cons name rest ih =>
    cases tree with
    | file content => rfl
    | directory entries =>
      simp only [List.cons_append, get?]
      cases entries.lookup name with
      | none => rfl
      | some inner => exact ih

/-- Behind a name there is something only in a directory. -/
theorem get?_cons_eq_some_iff (hwell : tree.isWellFormed = true) :
    tree.get? (name :: names) = some found ↔
      ∃ entries inner, tree = .directory entries ∧ (name, inner) ∈ entries ∧
        inner.get? names = some found := by
  cases tree with
  | file content => simp [get?]
  | directory entries =>
    obtain ⟨hnodup, _⟩ := areWellFormed_iff.mp hwell
    simp only [get?, Option.bind_eq_some_iff, lookup_eq_some_iff_mem hnodup]
    constructor
    · rintro ⟨inner, hmem, hinner⟩
      exact ⟨entries, inner, rfl, hmem, hinner⟩
    · rintro ⟨_, inner, hentries, hmem, hinner⟩
      cases hentries
      exact ⟨inner, hmem, hinner⟩

/-- Names that lead to something in a well-formed tree are names that names can be. -/
theorem names_of_get? (hwell : tree.isWellFormed = true) (hfound : tree.get? names = some found) :
    AreEntryNames names ∧ (∀ name ∈ names, name.utf8ByteSize ≤ longestName) ∧
      found.isWellFormed = true := by
  induction names generalizing tree with
  | nil =>
    cases tree <;> (cases hfound; exact ⟨areEntryNames_nil, by simp, hwell⟩)
  | cons name rest ih =>
    obtain ⟨entries, inner, rfl, hmem, hinner⟩ := (get?_cons_eq_some_iff hwell).mp hfound
    obtain ⟨hname, hshort, hwell⟩ := (areWellFormed_iff.mp hwell).2 _ hmem
    obtain ⟨hrest, hshorts, hfound⟩ := ih hwell hinner
    exact ⟨areEntryNames_cons.mpr ⟨hname, hrest⟩, List.forall_mem_cons.mpr ⟨hshort, hshorts⟩,
      hfound⟩

theorem filesOf_eq_flatMap :
    filesOf shown entries = entries.flatMap fun entry => entry.2.files (shown.join entry.1) := by
  induction entries with
  | nil => rfl
  | cons first rest ih =>
    rw [filesOf, List.flatMap_cons, ih]

/-- A walk shows the paths that names lead to a file by. -/
theorem mem_files_iff (hwell : tree.isWellFormed = true) :
    path ∈ tree.files shown ↔
      ∃ names content, tree.get? names = some (.file content) ∧ path = shown.below names := by
  induction tree using induction generalizing shown with
  | file content =>
    simp only [files, List.mem_singleton]
    constructor
    · rintro rfl
      exact ⟨[], content, rfl, rfl⟩
    · rintro ⟨names, _, hfound, rfl⟩
      cases names with
      | nil => rfl
      | cons name rest => cases hfound
  | directory entries ih =>
    have hentries := (areWellFormed_iff.mp hwell).2
    simp only [files, filesOf_eq_flatMap, List.mem_flatMap]
    constructor
    · rintro ⟨⟨name, inner⟩, hmem, hpath⟩
      obtain ⟨names, content, hfound, rfl⟩ :=
        (ih _ hmem (hentries _ hmem).2.2).mp hpath
      exact ⟨name :: names, content,
        (get?_cons_eq_some_iff hwell).mpr ⟨entries, inner, rfl, hmem, hfound⟩, rfl⟩
    · rintro ⟨names, content, hfound, rfl⟩
      cases names with
      | nil => cases hfound
      | cons name rest =>
        obtain ⟨_, inner, hdirectory, hmem, hinner⟩ := (get?_cons_eq_some_iff hwell).mp hfound
        cases hdirectory
        exact ⟨(name, inner), hmem,
          (ih _ hmem (hentries _ hmem).2.2).mpr ⟨rest, content, hinner, rfl⟩⟩

/-- It shows none of them twice, because different entries have different names. -/
theorem nodup_files (hwell : tree.isWellFormed = true) : (tree.files shown).Nodup := by
  induction tree using induction generalizing shown with
  | file content => simp [files]
  | directory entries ih =>
    obtain ⟨hnodup, hentries⟩ := areWellFormed_iff.mp hwell
    rw [files, filesOf_eq_flatMap, List.nodup_flatMap]
    refine ⟨fun entry hmem => ih entry hmem (hentries entry hmem).2.2, ?_⟩
    have hdistinct : entries.Pairwise fun first second => first.1 ≠ second.1 :=
      List.pairwise_map.mp hnodup
    refine hdistinct.imp_of_mem ?_
    intro first second hfirst hsecond hne path hpath hother
    obtain ⟨hname, _, hinner⟩ := hentries first hfirst
    obtain ⟨hname', _, hinner'⟩ := hentries second hsecond
    obtain ⟨names, _, hfound, rfl⟩ := (mem_files_iff hinner).mp hpath
    obtain ⟨others, _, hfound', hsame⟩ := (mem_files_iff hinner').mp hother
    have hnames : first.1 :: names = second.1 :: others :=
      names_eq_of_components_eq
        (areEntryNames_cons.mpr ⟨hname, (names_of_get? hinner hfound).1⟩)
        (areEntryNames_cons.mpr ⟨hname', (names_of_get? hinner' hfound').1⟩)
        (congrArg components hsame)
    exact hne (List.cons.inj hnames).1

theorem locationIn_eq_ok {place : Location} (hshort : name.utf8ByteSize ≤ longestName) :
    locationIn place name = .ok (place ++ [name]) :=
  if_neg (Nat.not_lt.mpr hshort)

theorem follow_cons {place : Location} {step : PathComponent} {rest : List PathComponent}
    (hrest : rest ≠ []) :
    tree.follow place (step :: rest) =
      tree.enter place step >>= fun next => tree.follow next rest := by
  rw [follow]
  exact fun _ _ hnil => hrest hnil

/-- A name leads into the directory that it is the name of. -/
theorem enter_name {place next : Location} (hnext : locationIn place name = .ok next)
    (hdirectory : tree.get? next = some (.directory entries)) :
    tree.enter place (.name name) = .ok next := by
  rw [enter, hnext]
  simp only [bind, Except.bind, hdirectory]

/-- Steps that lead to a directory are followed before the steps behind them. -/
theorem follow_append {place next : Location} {steps rest : List PathComponent}
    (hsteps : tree.follow place steps = .ok next)
    (hnext : tree.get? next = some (.directory entries)) (hrest : rest ≠ []) :
    tree.follow place (steps ++ rest) = tree.follow next rest := by
  fun_induction follow tree place steps with
  | case1 place =>
    cases hsteps
    rfl
  | case2 place name =>
    rw [List.singleton_append, follow_cons hrest, enter_name hsteps hnext]
    rfl
  | case3 place step more hlast ih =>
    have hmore : more ++ rest ≠ [] := List.append_ne_nil_of_right_ne_nil more hrest
    rw [List.cons_append, follow_cons hmore]
    cases henter : tree.enter place step with
    | error reason =>
      rw [henter] at hsteps
      cases hsteps
    | ok inner =>
      rw [henter] at hsteps
      exact ih inner hsteps

/-- Names are followed to what they lead to. -/
theorem follow_names {place : Location} (hwell : found.isWellFormed = true)
    (hplace : tree.get? place = some found) {target : FileTree}
    (htarget : found.get? names = some target) :
    tree.follow place (names.map .name) = .ok (place ++ names) := by
  induction names generalizing place found with
  | nil => rw [List.map_nil, follow, List.append_nil]
  | cons name rest ih =>
    obtain ⟨entries, inner, rfl, hmem, hinner⟩ := (get?_cons_eq_some_iff hwell).mp htarget
    obtain ⟨_, hshort, hwellInner⟩ := (areWellFormed_iff.mp hwell).2 _ hmem
    cases rest with
    | nil => exact locationIn_eq_ok hshort
    | cons second more =>
      have hnext : tree.get? (place ++ [name]) = some inner := by
        rw [get?_append, hplace, Option.bind_some, get?_cons_eq_some_iff hwell]
        exact ⟨entries, inner, rfl, hmem, by cases inner <;> rfl⟩
      obtain ⟨innerEntries, _, rfl, _⟩ := (get?_cons_eq_some_iff hwellInner).mp hinner
      rw [List.map_cons, follow_cons (by simp), enter_name (locationIn_eq_ok hshort) hnext]
      have hrest := ih hwellInner hnext hinner
      rw [List.append_assoc] at hrest
      exact hrest

/-- Where there are files at and below a path, the path leads to what is there. -/
theorem find_eq_ok_iff {target : FileTree} :
    tree.find path = .ok target ↔ ∃ place, tree.locate path = .ok place ∧
      tree.get? place = some target ∧
        (path.namesDirectory = true → ∃ entries, target = .directory entries) := by
  unfold find
  cases tree.locate path with
  | error reason => simp [bind, Except.bind]
  | ok place =>
    simp only [bind, Except.bind, Except.ok.injEq, exists_eq_left']
    cases tree.get? place with
    | none => simp
    | some inner =>
      cases inner with
      | file content =>
        cases path.namesDirectory with
        | false => simp
        | true =>
          simp only [if_true, Option.some.injEq, forall_const, reduceCtorEq, false_iff, not_and]
          rintro rfl ⟨entries, hfile⟩
          cases hfile
      | directory entries =>
        simp only [Option.some.injEq, Except.ok.injEq]
        exact ⟨fun heq => ⟨heq, fun _ => ⟨entries, heq.symm⟩⟩, And.left⟩

theorem locate_eq_ok_iff {place : Location} :
    tree.locate path = .ok place ↔
      (validate path = .ok () ∧ path.text ≠ "") ∧ tree.follow [] path.steps = .ok place := by
  unfold locate
  cases validate path with
  | error reason => simp [bind, Except.bind]
  | ok =>
    simp only [bind, Except.bind]
    by_cases hempty : path.text = "" <;> simp [hempty]

theorem validate_eq_ok_iff :
    validate path = .ok () ↔
      '\x00' ∉ path.text.toList ∧ path.text.utf8ByteSize ≤ longestPath := by
  unfold validate
  by_cases hnul : '\x00' ∈ path.text.toList <;> simp [hnul]

/-- A path without steps is the empty one. -/
theorem text_ne_empty (hsteps : path.steps ≠ []) : path.text ≠ "" := fun htext =>
  hsteps (by simp [steps, parts, isAbsolute, htext])

/-- A path below a path leads to what the names behind it lead to, if it is short enough to be
followed. -/
theorem find_below {target : FileTree} (hwell : found.isWellFormed = true)
    (hroot : tree.find root = .ok found) (htarget : found.get? names = some target)
    (hshort : (root.below names).text.utf8ByteSize ≤ longestPath) :
    tree.find (root.below names) = .ok target := by
  obtain ⟨hnames, _⟩ := names_of_get? hwell htarget
  rcases names.eq_nil_or_concat' with rfl | ⟨before, name, rfl⟩
  · have hfound : found = target := by cases found <;> exact Option.some.inj htarget
    exact hfound ▸ hroot
  · obtain ⟨place, hlocate, hplace, _⟩ := find_eq_ok_iff.mp hroot
    obtain ⟨⟨hvalid, _⟩, hfollow⟩ := locate_eq_ok_iff.mp hlocate
    have hsteps : (root.below (before ++ [name])).steps =
        root.steps ++ (before ++ [name]).map .name := steps_below hnames
    have hnil : (before ++ [name]).map PathComponent.name ≠ [] := by simp
    obtain ⟨entries, rfl⟩ : ∃ entries, found = .directory entries := by
      cases found with
      | file content => cases before <;> cases htarget
      | directory entries => exact ⟨entries, rfl⟩
    have htext : (root.below (before ++ [name])).text ≠ "" :=
      text_ne_empty (hsteps ▸ List.append_ne_nil_of_right_ne_nil _ hnil)
    have hvalidBelow : validate (root.below (before ++ [name])) = .ok () :=
      validate_eq_ok_iff.mpr ⟨nul_notMem_below hnames (validate_eq_ok_iff.mp hvalid).1, hshort⟩
    refine find_eq_ok_iff.mpr
      ⟨place ++ (before ++ [name]), locate_eq_ok_iff.mpr ⟨⟨hvalidBelow, htext⟩, ?_⟩, ?_, ?_⟩
    · rw [hsteps, follow_append hfollow hplace hnil]
      exact follow_names hwell hplace htarget
    · rw [get?_append, hplace]
      exact htarget
    · intro hslash
      rw [below_concat, namesDirectory_join (hnames name (by simp))] at hslash
      cases hslash

/-- There is a file with the content at or below a root. Its path is the root with the names behind
it that lead to the file, and is short enough to be followed. -/
def HasFile (tree : FileTree) (root path : Path) (content : FileContent) : Prop :=
  ∃ found names, tree.find root = .ok found ∧ found.get? names = some (.file content) ∧
    path = root.below names ∧ path.text.utf8ByteSize ≤ longestPath

variable {content : FileContent}

theorem isWellFormed_of_find (hwell : tree.isWellFormed = true)
    (hfind : tree.find path = .ok found) : found.isWellFormed = true := by
  obtain ⟨_, _, hplace, _⟩ := find_eq_ok_iff.mp hfind
  exact (names_of_get? hwell hplace).2.2

theorem isFile_eq_true_iff :
    tree.isFile path = true ↔ ∃ content, tree.find path = .ok (.file content) := by
  unfold isFile
  split <;> simp_all

/-- The path of a file leads to the file. -/
theorem HasFile.find (hwell : tree.isWellFormed = true) (hfile : tree.HasFile root path content) :
    tree.find path = .ok (.file content) := by
  obtain ⟨found, names, hroot, htarget, rfl, hshort⟩ := hfile
  exact find_below (isWellFormed_of_find hwell hroot) hroot htarget hshort

/-- Files below one root are the same file if their paths are compared as equal. -/
theorem HasFile.path_eq {other : Path} {content' : FileContent} (hwell : tree.isWellFormed = true)
    (hfile : tree.HasFile root path content) (hother : tree.HasFile root other content')
    (hcomponents : path.components = other.components) : path = other := by
  obtain ⟨found, names, hroot, htarget, rfl, _⟩ := hfile
  obtain ⟨found', names', hroot', htarget', rfl, _⟩ := hother
  cases hroot.symm.trans hroot'
  have hfound := isWellFormed_of_find hwell hroot
  rw [names_eq_of_components_eq (names_of_get? hfound htarget).1 (names_of_get? hfound htarget').1
    hcomponents]

/-- A walk meets the files at and below its root, and besides them only paths that are too long. -/
theorem mem_filesBelow_and_isFile_iff (hwell : tree.isWellFormed = true) :
    path ∈ tree.filesBelow root ∧ tree.isFile path = true ↔
      ∃ content, tree.HasFile root path content := by
  constructor
  · rintro ⟨hmem, hfile⟩
    obtain ⟨_, hfind⟩ := isFile_eq_true_iff.mp hfile
    obtain ⟨_, hlocate, _⟩ := find_eq_ok_iff.mp hfind
    have hshort := (validate_eq_ok_iff.mp (locate_eq_ok_iff.mp hlocate).1.1).2
    unfold filesBelow at hmem
    split at hmem
    next found hroot =>
      obtain ⟨names, content, htarget, rfl⟩ :=
        (mem_files_iff (isWellFormed_of_find hwell hroot)).mp hmem
      exact ⟨content, found, names, hroot, htarget, rfl, hshort⟩
    next => cases hmem
  · rintro ⟨content, hfile⟩
    refine ⟨?_, isFile_eq_true_iff.mpr ⟨content, hfile.find hwell⟩⟩
    obtain ⟨found, names, hroot, htarget, hpath, _⟩ := hfile
    unfold filesBelow
    rw [hroot]
    exact (mem_files_iff (isWellFormed_of_find hwell hroot)).mpr ⟨names, content, htarget, hpath⟩

theorem nodup_filesBelow (hwell : tree.isWellFormed = true) : (tree.filesBelow root).Nodup := by
  unfold filesBelow
  split
  next found hroot => exact nodup_files (isWellFormed_of_find hwell hroot)
  next => exact List.nodup_nil

end VisualNovel.FileTree
