/-
# Changes of a tree

Making a directory and opening a file add something where nothing was. All that was in the tree
before stays as it was, but that a directory may have gained entries, and no file is new but the one
that is opened. A path that could be followed before is followed to the same place afterwards.
-/

import VisualNovel.Proofs.Files.Walk

namespace VisualNovel.FileTree

variable {tree middle other new found : FileTree} {place next : Location} {path : Path}
  {content : FileContent} {steps : List PathComponent} {made later : List Location}

theorem lookup_alter {name sought : String} {change : Option FileTree → FileTree}
    {entries : List (String × FileTree)} :
    (alter name change entries).lookup sought =
      if sought = name then some (change (entries.lookup name)) else entries.lookup sought := by
  have hlookup (first : String) (inner : FileTree) (rest : List (String × FileTree))
      (key : String) : ((first, inner) :: rest).lookup key =
        if key = first then some inner else rest.lookup key := by
    by_cases hkey : key = first <;> simp [List.lookup_cons, hkey, beq_false_of_ne]
  induction entries with
  | nil => simp [alter, hlookup]
  | cons entry rest ih =>
    obtain ⟨first, inner⟩ := entry
    rw [alter]
    by_cases hfirst : first = name
    · subst hfirst
      by_cases hname : sought = first <;> simp [hlookup, hname]
    · rw [if_neg hfirst, hlookup, ih, hlookup, hlookup, if_neg (Ne.symm hfirst)]
      by_cases hsought : sought = first
      · simp [hsought, hfirst]
      · simp [hsought]

theorem alter_alter {name : String} {change again : Option FileTree → FileTree}
    {entries : List (String × FileTree)} :
    alter name again (alter name change entries) =
      alter name (fun old => again (some (change old))) entries := by
  induction entries with
  | nil => simp [alter]
  | cons entry rest ih =>
    obtain ⟨first, inner⟩ := entry
    by_cases hfirst : first = name <;> simp [alter, hfirst, ih]

/-- What is put in the place of something new takes its place. -/
theorem put_put (last : FileTree) : put last (put new tree place) place = put last tree place := by
  induction place generalizing tree with
  | nil => rfl
  | cons name rest ih =>
    cases tree with
    | file content => rfl
    | directory entries => simp only [put, alter_alter, Option.getD_some, ih]

/-- What is found where something was put is what was put there. -/
theorem eq_of_get?_put (hfound : (put new tree place).get? place = some found) : found = new := by
  induction place generalizing tree with
  | nil =>
    rw [put] at hfound
    cases new <;> exact (Option.some.inj hfound).symm
  | cons name rest ih =>
    cases tree with
    | file content => cases hfound
    | directory entries =>
      simp only [put, get?, lookup_alter, if_true, Option.bind_some] at hfound
      exact ih hfound

/-- A file that is found after something new was put somewhere was there before, or belongs to what
is new. -/
theorem get?_eq_file_of_put (hfile : (put new tree place).get? next = some (.file content)) :
    tree.get? next = some (.file content) ∨
      ∃ rest, next = place ++ rest ∧ new.get? rest = some (.file content) := by
  induction place generalizing tree next with
  | nil => exact .inr ⟨next, rfl, hfile⟩
  | cons name rest ih =>
    cases tree with
    | file content => exact .inl hfile
    | directory entries =>
      cases next with
      | nil => cases hfile
      | cons first more =>
        simp only [put, get?, lookup_alter] at hfile ⊢
        by_cases hfirst : first = name
        · subst hfirst
          rw [if_pos rfl, Option.bind_some] at hfile
          rcases ih hfile with hold | ⟨behind, rfl, hnew⟩
          · cases hentry : entries.lookup first with
            | none =>
              rw [hentry] at hold
              cases more <;> cases hold
            | some inner =>
              rw [hentry] at hold
              exact .inl hold
          · exact .inr ⟨behind, rfl, hnew⟩
        · rw [if_neg hfirst] at hfile
          exact .inl hfile

/-- The content of a file. A directory has none. -/
def content? : FileTree → Option FileContent
  | .file content => some content
  | .directory _ => none

/-- What is in the tree is in the other one as well, files with the same content, and no file of the
other is new but those in the given places. -/
structure Extends (tree other : FileTree) (made : List Location) : Prop where
  kept : ∀ place found, tree.get? place = some found →
    ∃ same, other.get? place = some same ∧ same.content? = found.content?
  created : ∀ place content, other.get? place = some (.file content) →
    tree.get? place = some (.file content) ∨ place ∈ made

namespace Extends

theorem refl (tree : FileTree) : Extends tree tree made :=
  ⟨fun _ found hfound => ⟨found, hfound, rfl⟩, fun _ _ hfile => .inl hfile⟩

theorem trans (hfirst : Extends tree middle made) (hsecond : Extends middle other later) :
    Extends tree other (made ++ later) := by
  constructor
  · intro place found hfound
    obtain ⟨same, hsame, hcontent⟩ := hfirst.kept place found hfound
    obtain ⟨last, hlast, hlastContent⟩ := hsecond.kept place same hsame
    exact ⟨last, hlast, hlastContent.trans hcontent⟩
  · intro place content hfile
    rcases hsecond.created place content hfile with hmiddle | hnew
    · rcases hfirst.created place content hmiddle with hold | hnew
      · exact .inl hold
      · exact .inr (List.mem_append_left later hnew)
    · exact .inr (List.mem_append_right made hnew)

/-- A file stays as it is. -/
theorem get?_eq_file (hextends : Extends tree other made)
    (hfile : tree.get? place = some (.file content)) : other.get? place = some (.file content) := by
  obtain ⟨same, hsame, hcontent⟩ := hextends.kept place _ hfile
  cases same with
  | file kept => cases hcontent; exact hsame
  | directory entries => cases hcontent

/-- A directory stays one. -/
theorem exists_directory {entries : List (String × FileTree)} (hextends : Extends tree other made)
    (hdirectory : tree.get? place = some (.directory entries)) :
    ∃ grown, other.get? place = some (.directory grown) := by
  obtain ⟨same, hsame, hcontent⟩ := hextends.kept place _ hdirectory
  cases same with
  | file kept => cases hcontent
  | directory grown => exact ⟨grown, hsame⟩

/-- A step leads where it led before. -/
theorem enter {step : PathComponent} (hextends : Extends tree other made)
    (henter : tree.enter place step = .ok next) : other.enter place step = .ok next := by
  cases step with
  | name name =>
    rw [FileTree.enter] at henter
    cases hlocation : locationIn place name with
    | error reason =>
      rw [hlocation] at henter
      cases henter
    | ok inner =>
      rw [hlocation] at henter
      simp only [bind, Except.bind] at henter
      split at henter
      · next entries hdirectory =>
        cases henter
        obtain ⟨grown, hgrown⟩ := hextends.exists_directory hdirectory
        exact enter_name hlocation hgrown
      · cases henter
      · cases henter
  | _ => exact henter

/-- So do several. -/
theorem follow (hextends : Extends tree other made) (hfollow : tree.follow place steps = .ok next) :
    other.follow place steps = .ok next := by
  fun_induction FileTree.follow tree place steps with
  | case1 place => exact hfollow
  | case2 place name => exact hfollow
  | case3 place step rest hlast ih =>
    rw [FileTree.follow]
    · cases henter : tree.enter place step with
      | error reason =>
        rw [henter] at hfollow
        cases hfollow
      | ok inner =>
        rw [henter] at hfollow
        rw [hextends.enter henter]
        exact ih inner hfollow
    · exact hlast

/-- So does a path. -/
theorem locate (hextends : Extends tree other made) (hlocate : tree.locate path = .ok place) :
    other.locate path = .ok place := by
  obtain ⟨hvalid, hfollow⟩ := locate_eq_ok_iff.mp hlocate
  exact locate_eq_ok_iff.mpr ⟨hvalid, hextends.follow hfollow⟩

/-- A tree that is a file has no entries to gain. -/
theorem eq_file (hextends : Extends (.file content) other made) : other = .file content := by
  have hroot : other.get? [] = some (.file content) := hextends.get?_eq_file rfl
  cases other <;> exact Option.some.inj hroot

end Extends

/-- Something new where nothing was changes nothing else. -/
theorem kept_of_put (hfree : tree.get? place = none) (hfound : tree.get? next = some found) :
    ∃ same, (put new tree place).get? next = some same ∧ same.content? = found.content? := by
  induction place generalizing tree next with
  | nil => cases tree <;> cases hfree
  | cons name rest ih =>
    cases tree with
    | file content => exact ⟨found, hfound, rfl⟩
    | directory entries =>
      cases next with
      | nil =>
        cases hfound
        exact ⟨_, rfl, rfl⟩
      | cons first more =>
        simp only [put, get?, lookup_alter] at hfree hfound ⊢
        by_cases hfirst : first = name
        · subst hfirst
          obtain ⟨inner, hentry, hinner⟩ := Option.bind_eq_some_iff.mp hfound
          rw [hentry] at hfree
          rw [if_pos rfl, hentry]
          exact ih hfree hinner
        · rw [if_neg hfirst]
          exact ⟨found, hfound, rfl⟩

theorem extends_put_directory (hfree : tree.get? place = none) :
    Extends tree (put (.directory []) tree place) [] := by
  refine ⟨fun _ _ hfound => kept_of_put hfree hfound, fun next content hfile => ?_⟩
  rcases get?_eq_file_of_put hfile with hold | ⟨rest, _, hnew⟩
  · exact .inl hold
  · cases rest <;> cases hnew

theorem extends_put_file (hfree : tree.get? place = none) :
    Extends tree (put (.file content) tree place) [place] := by
  refine ⟨fun _ _ hfound => kept_of_put hfree hfound, fun next content hfile => ?_⟩
  rcases get?_eq_file_of_put hfile with hold | ⟨rest, rfl, hnew⟩
  · exact .inl hold
  · cases rest with
    | nil => simp
    | cons => cases hnew

theorem extends_makeDirectory (hmade : tree.makeDirectory steps = .ok other) :
    Extends tree other [] := by
  unfold makeDirectory at hmade
  simp only [bind, Except.bind] at hmade
  split at hmade
  · cases hmade
  · split at hmade
    · split at hmade
      · cases hmade
      · split at hmade
        · cases hmade
        · next hfree =>
          cases hmade
          exact extends_put_directory hfree
    · cases hmade

theorem extends_ensureDirectory (hmade : tree.ensureDirectory steps = .ok other) :
    Extends tree other [] := by
  unfold ensureDirectory at hmade
  split at hmade
  · next made hdirectory =>
    cases hmade
    exact extends_makeDirectory hdirectory
  · split at hmade
    · cases hmade
      exact .refl tree
    · cases hmade

theorem extends_attempt_ensureDirectory (tree : FileTree) (steps : List PathComponent) :
    Extends tree (tree.attempt (·.ensureDirectory steps)).1 [] := by
  unfold attempt
  split
  · next changed hchanged => exact extends_ensureDirectory hchanged
  · exact .refl tree

/-- Directories that are made change nothing else, even if it is not all of them that can be
made. -/
theorem extends_ensureDirectories (tree : FileTree) (steps : List PathComponent) :
    Extends tree (tree.ensureDirectories steps).1 [] := by
  induction steps generalizing tree with
  | nil => exact .refl tree
  | cons last before ih =>
    have hmake := fun tree => extends_attempt_ensureDirectory tree (last :: before).reverse
    rw [ensureDirectories]
    split
    · have habove := ih tree
      split
      · next above hdone =>
        rw [hdone] at habove
        exact habove.trans (hmake above)
      · exact habove
    · exact hmake tree

theorem extends_makeDirectories (tree : FileTree) (path : Path) :
    Extends tree (tree.makeDirectories path).1 [] := by
  have hmake := fun tree => extends_attempt_ensureDirectory tree path.steps
  unfold makeDirectories
  split
  · exact .refl tree
  · split
    · exact .refl tree
    · dsimp only
      split
      · have habove := extends_ensureDirectories tree path.dotless.dropLast.reverse
        split
        · next above hdone =>
          rw [hdone] at habove
          exact habove.trans (hmake above)
        · exact habove
      · exact hmake tree

/-- A file is opened at the end of its path. It is the only one that may be new. -/
theorem openForAppend_eq_ok (hname : path.namesDirectory = false)
    (hopened : tree.openForAppend path = .ok other) :
    ∃ place, tree.locate path = .ok place ∧ Extends tree other [place] ∧
      ∀ entries, other.get? place ≠ some (.directory entries) := by
  unfold openForAppend at hopened
  cases hlocate : tree.locate path with
  | error reason =>
    rw [hlocate] at hopened
    cases hopened
  | ok place =>
    rw [hlocate] at hopened
    simp only [bind, Except.bind, hname, Bool.false_eq_true, if_false] at hopened
    refine ⟨place, rfl, ?_⟩
    split at hopened
    · cases hopened
    · next content hfile =>
      cases hopened
      refine ⟨.refl tree, fun entries hdirectory => ?_⟩
      rw [hfile] at hdirectory
      cases hdirectory
    · next hfree =>
      cases hopened
      exact ⟨extends_put_file hfree, fun entries hdirectory =>
        nomatch eq_of_get?_put hdirectory⟩

/-- Where no file is opened, the path leads nowhere or to a directory. -/
theorem exists_directory_of_openForAppend {reason : FileError} (hname : path.namesDirectory = false)
    (hfails : tree.openForAppend path = .error reason) (hlocate : tree.locate path = .ok place) :
    ∃ entries, tree.get? place = some (.directory entries) := by
  unfold openForAppend at hfails
  rw [hlocate] at hfails
  simp only [bind, Except.bind, hname, Bool.false_eq_true, if_false] at hfails
  split at hfails
  · next entries hdirectory => exact ⟨entries, hdirectory⟩
  · cases hfails
  · cases hfails

/-- A text is written to a file that is not there yet. -/
theorem write_eq_ok_of_free (hlocate : tree.locate path = .ok place)
    (hname : path.namesDirectory = false) (hfree : tree.get? place = none) (text : String) :
    tree.write path text = .ok (put (.file (.ok text.toUTF8)) tree place) := by
  have hopened : tree.openForAppend path = .ok (put (.file (.ok .empty)) tree place) := by
    simp only [openForAppend, hlocate, bind, Except.bind, hfree, hname, Bool.false_eq_true,
      if_false]
  have hstill : (put (.file (.ok .empty)) tree place).locate path = .ok place :=
    (extends_put_file hfree).locate hlocate
  simp only [write, hopened, bind, Except.bind, hstill, put_put, pure, Except.pure]

end VisualNovel.FileTree
