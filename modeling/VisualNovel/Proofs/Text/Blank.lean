/-
# Texts without blank ends

Trimming takes away the blanks at both ends of a text. So it leaves a text as it is if and only if
the text neither begins nor ends with a blank; blanks inside it do not matter.
-/

import Mathlib.Data.List.TakeWhile
import VisualNovel.Text.Blank

namespace VisualNovel.Text

/-- The text neither begins nor ends with a blank. -/
def HasVisibleEnds (text : List Char) : Prop :=
  (∀ c ∈ text.head?, isBlank c = false) ∧ ∀ c ∈ text.getLast?, isBlank c = false

instance (text : List Char) : Decidable (HasVisibleEnds text) :=
  inferInstanceAs (Decidable (_ ∧ _))

variable {text : List Char}

theorem trimStart_eq_self_iff : trimStart text = text ↔ ∀ c ∈ text.head?, isBlank c = false := by
  cases text with
  | nil => simp [trimStart]
  | cons c rest => simp [trimStart, List.dropWhile_eq_self_iff]

theorem trimEnd_eq_self_iff : trimEnd text = text ↔ ∀ c ∈ text.getLast?, isBlank c = false := by
  rw [← List.head?_reverse, ← trimStart_eq_self_iff]
  exact List.reverse_eq_iff

/-- Trimming changes a text unless both of its ends are visible. -/
theorem trim_eq_self_iff : trim text = text ↔ HasVisibleEnds text := by
  rw [HasVisibleEnds, ← trimStart_eq_self_iff, ← trimEnd_eq_self_iff]
  constructor
  · intro htrim
    have hlength : text.length ≤ (trimStart text).length :=
      calc
        text.length = (trim text).length := by rw [htrim]
        _ ≤ (trimStart text).length := List.IsPrefix.length_le <| trimEnd_prefix _
    have hstart : trimStart text = text := (trimStart_suffix text).eq_of_length_le hlength
    refine ⟨hstart, ?_⟩
    rwa [trim, hstart] at htrim
  · rintro ⟨hstart, hend⟩
    rw [trim, hstart, hend]

/-- What has no blank is not trimmed. -/
theorem trim_of_forall (hvisible : ∀ c ∈ text, isBlank c = false) : trim text = text :=
  trim_eq_self_iff.mpr ⟨fun c hc => hvisible c (List.mem_of_mem_head? hc),
    fun c hc => hvisible c (List.mem_of_mem_getLast? hc)⟩

end VisualNovel.Text
