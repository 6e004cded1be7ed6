/-
# The text that the player is shown

Two kinds of marks are replaced in a text before anything else is looked at: the mark of the
player's name, in any letter case, and the mark of a line break. The name is put in first, and it is
not kept apart from the text around it: a line break may be marked in the name, or across one of its
ends.
-/

import VisualNovel.Dialogue.Runs
import VisualNovel.Proofs.Text.Keyword
import VisualNovel.Proofs.Text.Marks

namespace VisualNovel.Dialogue

open Text

/-- The mark of the player's name: `[username]`, but for simple case folding. -/
def IsNameMark (mark : List Char) : Prop := mark.map folded = nameMark

instance (mark : List Char) : Decidable (IsNameMark mark) :=
  inferInstanceAs (Decidable (_ = _))

/-- The mark of a line break. -/
def IsLineMark (mark : List Char) : Prop := mark = "#n".toList

theorem opensMarks_name : OpensMarks '[' IsNameMark := by
  intro mark hmark
  obtain ⟨c, inside, rfl, hc, hinside⟩ := List.map_eq_cons_iff.mp hmark
  obtain rfl := eq_of_folded_eq hc rfl
  refine ⟨inside, rfl, fun hbracket => ?_⟩
  have himage : folded '[' ∈ inside.map folded := List.mem_map_of_mem hbracket
  rw [hinside] at himage
  exact absurd himage (by decide)

theorem opensMarks_line : OpensMarks '#' IsLineMark := by
  rintro _ rfl
  exact ⟨['n'], rfl, by decide⟩

/-- A text without a `u` has no mark of the name. -/
theorem free_name {text : List Char} (hnone : 'u' ∉ text.map folded) : Free IsNameMark text := by
  intro part hpart hmark
  have hletter : 'u' ∈ part.map folded := by
    rw [hmark]
    decide
  obtain ⟨c, hc, hfolded⟩ := List.mem_map.mp hletter
  exact hnone (hfolded ▸ List.mem_map_of_mem (hpart.subset hc))

theorem stripFolded?_nameMark_eq_some_iff {text rest : List Char} :
    stripFolded? nameMark text = some rest ↔ ∃ mark, IsNameMark mark ∧ text = mark ++ rest :=
  stripFolded?_eq_some_iff (by decide)

theorem insertName_of_stripFolded? {player text rest : List Char}
    (hfound : stripFolded? nameMark text = some rest) :
    insertName player text = player ++ insertName player rest := by
  cases text with
  | nil => cases hfound
  | cons c text =>
    rw [insertName]
    split
    · next hsome =>
      rw [hfound] at hsome
      cases hsome
      rfl
    · next hnone =>
      rw [hfound] at hnone
      cases hnone

theorem insertName_cons_of_none {player text : List Char} {c : Char}
    (hnone : stripFolded? nameMark (c :: text) = none) :
    insertName player (c :: text) = c :: insertName player text := by
  rw [insertName]
  split
  · next hsome =>
    rw [hnone] at hsome
    cases hsome
  · rfl

theorem replaces_insertName (player : List Char) :
    Replaces (insertName player) IsNameMark player where
  nil := by rw [insertName]
  mark := by
    intro mark rest hmark
    exact insertName_of_stripFolded? (stripFolded?_nameMark_eq_some_iff.mpr ⟨mark, hmark, rfl⟩)
  cons := by
    intro c rest hnone
    refine insertName_cons_of_none (Option.eq_none_iff_forall_ne_some.mpr fun after hfound => ?_)
    obtain ⟨mark, hmark, hsame⟩ := stripFolded?_nameMark_eq_some_iff.mp hfound
    exact hnone mark after hmark hsame

theorem replaces_breakLines : Replaces breakLines IsLineMark ['\n'] where
  nil := rfl
  mark := by
    rintro _ rest rfl
    rfl
  cons := by
    intro c rest hnone
    refine breakLines.eq_3 c rest fun after hc hrest => ?_
    exact hnone "#n".toList after rfl (by rw [hc, hrest]; rfl)

/-- The text as the player is shown it, with its tags: the raw text with the name for every mark of
the name, and then with a line break for every mark of one. -/
def IsShown (raw : List Char) (player : String) (text : List Char) : Prop :=
  ∃ named, Replaced IsNameMark player.toList raw named ∧ Replaced IsLineMark ['\n'] named text

theorem isShown_iff {raw text : List Char} {player : String} :
    IsShown raw player text ↔ source raw player = text := by
  unfold IsShown source
  constructor
  · rintro ⟨named, hnamed, htext⟩
    rw [(replaces_insertName _).replaced_iff opensMarks_name] at hnamed
    rw [replaces_breakLines.replaced_iff opensMarks_line] at htext
    rw [hnamed, htext]
  · rintro rfl
    exact ⟨_, ((replaces_insertName _).replaced_iff opensMarks_name).mpr rfl,
      (replaces_breakLines.replaced_iff opensMarks_line).mpr rfl⟩

/-- A text without any of the marks is shown as it stands. -/
theorem isShown_self {text : List Char} {player : String} (hname : 'u' ∉ text.map folded)
    (hline : '#' ∉ text) : IsShown text player text :=
  ⟨text, .free (free_name hname), .free (opensMarks_line.free_of_notMem hline)⟩

end VisualNovel.Dialogue
