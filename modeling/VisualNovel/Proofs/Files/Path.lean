/-
# Paths below a directory

The path of a file is that of a directory with names behind it. However the directory is written,
with or without a slash at its end or as nothing at all, such a path has the steps and the
components of the directory and then one for every name. So the names can be read off the
components, and two paths below one directory are the same path only if they are written the same.
-/

import VisualNovel.Files.Path

namespace VisualNovel

/-- What the name of a file or a directory in a directory can be. -/
def IsEntryName (name : String) : Prop :=
  name ≠ "" ∧ '/' ∉ name.toList ∧ '\x00' ∉ name.toList ∧ name ≠ "." ∧ name ≠ ".."

instance (name : String) : Decidable (IsEntryName name) :=
  inferInstanceAs (Decidable (_ ∧ _))

namespace Path

variable {directory path : Path} {name : String} {names others : List String}

/-- The path to which names lead from a directory. -/
def below (directory : Path) (names : List String) : Path := names.foldl join directory

/-- What is written before a slash and what is written behind it have parts of their own. -/
theorem parts_of_slash {before after : List Char}
    (htext : path.text.toList = before ++ '/' :: after) :
    path.parts = (Path.mk (.ofList before)).parts ++ (Path.mk (.ofList after)).parts := by
  simp only [parts, htext, String.toList_ofList]
  rw [List.splitOn, List.splitOnP_append_cons _ _ (by simp), List.filter_append, List.map_append]
  rfl

theorem parts_name (hname : IsEntryName name) : (Path.mk name).parts = [name] := by
  obtain ⟨hempty, hslash, _⟩ := hname
  have hsingle : name.toList.splitOn '/' = [name.toList] :=
    List.splitOnP_eq_singleton fun c hc => beq_false_of_ne fun heq => hslash (heq ▸ hc)
  have hchars : name.toList ≠ [] := fun h => hempty (String.toList_eq_nil_iff.mp h)
  simp [parts, hsingle, hchars]

/-- A path with a name behind it is written as the directory, a slash that is not written twice, and
the name. -/
theorem toList_text_join (hdirectory : directory.text ≠ "") (name : String) :
    ∃ before, (directory.join name).text.toList = before ++ '/' :: name.toList ∧
      (directory.text.toList = before ∨ directory.text.toList = before ++ ['/']) := by
  unfold join
  cases hlast : directory.text.toList.getLast? with
  | none =>
    rw [List.getLast?_eq_none_iff] at hlast
    exact absurd (String.toList_eq_nil_iff.mp hlast) hdirectory
  | some c =>
    obtain ⟨before, hbefore⟩ := List.getLast?_eq_some_iff.mp hlast
    by_cases hslash : c = '/'
    · subst hslash
      refine ⟨before, ?_, .inr hbefore⟩
      simp [hbefore]
    · refine ⟨directory.text.toList, ?_, .inl rfl⟩
      split
      · simp_all
      · simp_all
      · simp

/-- One more name is one more part. -/
theorem parts_join (hname : IsEntryName name) :
    (directory.join name).parts = directory.parts ++ [name] := by
  by_cases hdirectory : directory.text = ""
  · have hjoin : directory.join name = ⟨name⟩ := by simp [join, hdirectory]
    have hparts : directory.parts = [] := by simp [parts, hdirectory]
    rw [hjoin, hparts, parts_name hname, List.nil_append]
  · obtain ⟨before, htext, hbefore⟩ := toList_text_join hdirectory name
    rw [parts_of_slash htext, String.ofList_toList, parts_name hname]
    rcases hbefore with hbefore | hbefore
    · rw [← hbefore, String.ofList_toList]
    · rw [parts_of_slash hbefore]
      simp [parts]

theorem isAbsolute_join (hname : IsEntryName name) :
    (directory.join name).isAbsolute = directory.isAbsolute := by
  by_cases hdirectory : directory.text = ""
  · obtain ⟨_, hslash, _⟩ := hname
    have hjoin : directory.join name = ⟨name⟩ := by simp [join, hdirectory]
    have hhead : name.toList.head? ≠ some '/' := fun h => hslash (List.mem_of_head? h)
    simp [hjoin, isAbsolute, hdirectory, hhead]
  · obtain ⟨before, htext, hbefore⟩ := toList_text_join hdirectory name
    cases before with
    | nil =>
      rcases hbefore with hbefore | hbefore
      · exact absurd (String.toList_eq_nil_iff.mp hbefore) hdirectory
      · simp [isAbsolute, htext, hbefore]
    | cons c before => rcases hbefore with hbefore | hbefore <;> simp [isAbsolute, htext, hbefore]

theorem stepOf_name (hname : IsEntryName name) : stepOf name = .name name := by
  obtain ⟨_, _, _, hdot, hdots⟩ := hname
  rw [stepOf, if_neg hdot, if_neg hdots]

/-- One more name is one more step. -/
theorem steps_join (hname : IsEntryName name) :
    (directory.join name).steps = directory.steps ++ [.name name] := by
  simp only [steps, isAbsolute_join hname, parts_join hname, List.map_append, List.map_singleton,
    stepOf_name hname]
  cases directory.isAbsolute <;> rfl

/-- One more name is one more component. -/
theorem components_join (hname : IsEntryName name) :
    (directory.join name).components = directory.components ++ [.name name] := by
  have hdotless : (directory.join name).dotless = directory.dotless ++ [.name name] := by
    simp [dotless, steps_join hname]
  rw [components, components, hdotless, steps_join hname]
  cases hsteps : directory.steps with
  | nil => simp [dotless, hsteps]
  | cons first rest =>
    by_cases hfirst : first = .current <;> simp [hfirst]

/-- A path with a name behind it is written with the characters of the two and slashes. -/
theorem mem_text_join {c : Char} (hc : c ∈ (directory.join name).text.toList) :
    c ∈ directory.text.toList ∨ c = '/' ∨ c ∈ name.toList := by
  by_cases hdirectory : directory.text = ""
  · have hjoin : directory.join name = ⟨name⟩ := by simp [join, hdirectory]
    rw [hjoin] at hc
    exact .inr (.inr hc)
  · obtain ⟨before, htext, hbefore⟩ := toList_text_join hdirectory name
    rw [htext, List.mem_append, List.mem_cons] at hc
    refine hc.imp_left fun hmem => ?_
    rcases hbefore with hbefore | hbefore <;> simp [hbefore, hmem]

/-- All of the names can be names of entries. -/
def AreEntryNames (names : List String) : Prop := ∀ name ∈ names, IsEntryName name

theorem areEntryNames_nil : AreEntryNames [] := fun _ h => absurd h List.not_mem_nil

theorem areEntryNames_cons :
    AreEntryNames (name :: names) ↔ IsEntryName name ∧ AreEntryNames names :=
  List.forall_mem_cons

theorem steps_below (hnames : AreEntryNames names) :
    (directory.below names).steps = directory.steps ++ names.map .name := by
  induction names generalizing directory with
  | nil => simp [below]
  | cons name rest ih =>
    obtain ⟨hname, hrest⟩ := areEntryNames_cons.mp hnames
    rw [below, List.foldl_cons, ← below, ih hrest, steps_join hname]
    simp

theorem components_below (hnames : AreEntryNames names) :
    (directory.below names).components = directory.components ++ names.map .name := by
  induction names generalizing directory with
  | nil => simp [below]
  | cons name rest ih =>
    obtain ⟨hname, hrest⟩ := areEntryNames_cons.mp hnames
    rw [below, List.foldl_cons, ← below, ih hrest, components_join hname]
    simp

/-- Paths below one directory with the same components go through the same names. -/
theorem names_eq_of_components_eq (hnames : AreEntryNames names) (hothers : AreEntryNames others)
    (hcomponents : (directory.below names).components = (directory.below others).components) :
    names = others := by
  rw [components_below hnames, components_below hothers, List.append_cancel_left_eq] at hcomponents
  exact (List.map_inj_right fun _ _ h => PathComponent.name.inj h).mp hcomponents

/-- The first names are gone through before the last one. -/
theorem below_concat (directory : Path) (names : List String) (name : String) :
    directory.below (names ++ [name]) = (directory.below names).join name := by
  rw [below, below, List.foldl_append]
  rfl

/-- Names that can be names bring nothing into a path that cannot be in one. -/
theorem nul_notMem_below (hnames : AreEntryNames names)
    (hdirectory : '\x00' ∉ directory.text.toList) :
    '\x00' ∉ (directory.below names).text.toList := by
  induction names generalizing directory with
  | nil => exact hdirectory
  | cons name rest ih =>
    obtain ⟨⟨_, _, hnul, _⟩, hrest⟩ := areEntryNames_cons.mp hnames
    refine ih hrest fun hmem => ?_
    rcases mem_text_join hmem with hmem | hslash | hmem
    · exact hdirectory hmem
    · exact absurd hslash (by decide)
    · exact hnul hmem

/-- A path that ends in a name has no slash at its end. -/
theorem namesDirectory_join (hname : IsEntryName name) :
    (directory.join name).namesDirectory = false := by
  obtain ⟨hempty, hslash, _⟩ := hname
  have hchars : name.toList ≠ [] := fun h => hempty (String.toList_eq_nil_iff.mp h)
  have hlast : name.toList.getLast? ≠ some '/' := fun h => hslash (List.mem_of_getLast? h)
  by_cases hdirectory : directory.text = ""
  · have hjoin : directory.join name = ⟨name⟩ := by simp [join, hdirectory]
    simp [hjoin, namesDirectory, hlast]
  · obtain ⟨before, htext, _⟩ := toList_text_join hdirectory name
    have hend : (before ++ '/' :: name.toList).getLast? = name.toList.getLast? := by
      rw [List.append_cons, List.getLast?_append, List.getLast?_eq_some_getLast hchars,
        Option.some_or]
    simp [namesDirectory, htext, hend, hlast]

end Path

end VisualNovel
