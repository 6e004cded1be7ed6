/-
# Reading a line directive by directive

The reading of a line is a recursion on what is left of it. Its two equations are stated here for a
line whose first directive is known, and with them the reading of the most common kind of script, in
which every line that is not blank is one directive from end to end.

At the end stands what is known of the lines themselves, whatever is written on them.
-/

import VisualNovel.Script.Consumption

namespace VisualNovel.Script

/-- Nothing is read where no directive matches. -/
theorem steps_of_match?_eq_none {text : List Char} (hnone : match? text = none) :
    steps text = [] := by
  rw [steps]
  split
  · rfl
  · rename_i hsome
    rw [hnone] at hsome
    cases hsome

/-- The first directive is read, and then what is left behind its separators. -/
theorem steps_of_match?_eq_some {text : List Char} {found : Match}
    (hsome : match? text = some found) :
    steps text = ⟨found, skipSeparators found.rest⟩ :: steps (skipSeparators found.rest) := by
  rw [steps]
  split
  · rename_i hnone
    rw [hsome] at hnone
    cases hnone
  · rename_i other hother
    rw [hsome] at hother
    cases hother
    rfl

/-- What is left of a line is what is left of it behind its first directive. -/
theorem remainder_of_match?_eq_some {text : List Char} {found : Match}
    (hsome : match? text = some found) :
    remainder text = remainder (skipSeparators found.rest) := by
  rw [remainder, steps_of_match?_eq_some hsome, remainder]
  cases steps (skipSeparators found.rest) <;> rfl

theorem steps_nil : steps [] = [] := steps_of_match?_eq_none (by decide +kernel)

/-- A line that is one directive from end to end is read in one step. -/
theorem steps_of_whole {text : List Char} {directive : Directive}
    (hwhole : match? text = some ⟨directive, text, []⟩) :
    steps text = [⟨⟨directive, text, []⟩, []⟩] := by
  rw [steps_of_match?_eq_some hwhole]
  exact congrArg _ steps_nil

/-- A script in which every line that is not blank is one directive says these directives. -/
theorem directives_eq_of_lines {script : List Char} (lines : List (List Char × Directive))
    (hlines : (segments script).map (·.text) = lines.map (·.1))
    (hwhole : ∀ line ∈ lines, match? line.1 = some ⟨line.2, line.1, []⟩) :
    directives script = lines.map (·.2) := by
  have htexts : directives script =
      (lines.map (·.1)).flatMap fun text => (steps text).map (·.found.directive) := by
    rw [← hlines, List.flatMap_map]
    rfl
  rw [htexts]
  clear htexts hlines
  induction lines with
  | nil => rfl
  | cons line rest ih =>
    have hhead := steps_of_whole (hwhole line List.mem_cons_self)
    have hrest := ih fun other hother => hwhole other (List.mem_cons_of_mem _ hother)
    simp [hhead, hrest]

/-- No part between separators has a separator in it. -/
theorem eq_false_of_mem_splitOnP {α : Type} {separates : α → Bool} {list part : List α}
    (hpart : part ∈ list.splitOnP separates) : ∀ a ∈ part, separates a = false := by
  induction list generalizing part with
  | nil =>
    rw [List.splitOnP_nil, List.mem_singleton] at hpart
    simp [hpart]
  | cons a list ih =>
    obtain ⟨first, later, hsplit⟩ := List.exists_cons_of_ne_nil
      (List.splitOnP_ne_nil separates list)
    rw [List.splitOnP_cons_eq_if_modifyHead, hsplit] at hpart
    rw [hsplit] at ih
    split at hpart
    · rcases List.mem_cons.mp hpart with rfl | hlater
      · exact List.forall_mem_nil _
      · exact ih hlater
    · rename_i ha
      rcases List.mem_cons.mp hpart with rfl | hlater
      · exact List.forall_mem_cons.mpr ⟨Bool.eq_false_iff.mpr ha, ih List.mem_cons_self⟩
      · exact ih (List.mem_cons_of_mem _ hlater)

/-- The segments of a script are its lines that are not blank. -/
theorem map_text_segments (script : List Char) :
    (segments script).map (·.text) = visibleLines script := by
  have hlines : (script.splitOn '\n').map Text.trim =
      (script.splitOn '\n').zipIdx.map (Text.trim ∘ Prod.fst) := by
    rw [← List.map_map, List.zipIdx_map_fst]
  rw [segments, visibleLines, hlines, List.filter_map, List.filter_map, List.map_map]
  rfl

theorem notMem_of_mem_visibleLines {script line : List Char} (hline : line ∈ visibleLines script) :
    '\n' ∉ line := by
  obtain ⟨raw, hraw, rfl⟩ := List.mem_map.mp (List.mem_filter.mp hline).1
  intro hmem
  have htrim : Text.trim raw <:+: raw :=
    (Text.trimEnd_prefix _).isInfix.trans (Text.trimStart_suffix raw).isInfix
  exact absurd (eq_false_of_mem_splitOnP hraw _ (htrim.subset hmem)) (by decide)

end VisualNovel.Script
