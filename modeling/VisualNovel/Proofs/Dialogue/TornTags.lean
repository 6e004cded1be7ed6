/-
# Tags that are left in the plain text

The tags of a text are taken out of it once, from the left, and what is put together by that is not
looked at again. So a tag may be left: one that other tags tear apart, such as the group of a `b`
with a further tag behind its opening bracket. No other tag is left, and whether one is torn apart
can be told from a part of the text, whatever stands around it.

Nothing is said of a second pass, which nothing in the project makes.
-/

import VisualNovel.Proofs.Dialogue.PlainText

namespace VisualNovel

namespace Dialogue

open Text

/-- The text is a tag once its own tags are taken out. -/
def IsTorn (text : List Char) : Prop := ∃ mark, IsTag mark ∧ Replaced IsTag [] text mark

variable {raw text plain part : List Char} {player : String}

theorem notMem_dropLast_of_isTag (mark : List Char) (hmark : IsTag mark) : ']' ∉ mark.dropLast := by
  obtain ⟨_, body, ⟨_, hclosing, _⟩, _, rfl⟩ := hmark
  rw [bracketed, ← List.cons_append, List.dropLast_concat]
  simpa using hclosing

/-- A torn tag begins with an opening bracket, as the tag does. -/
theorem IsTorn.resumes (htorn : IsTorn part) : Resumes '[' part := by
  obtain ⟨mark, hmark, hreplaced⟩ := htorn
  refine hreplaced.resumes opensMarks_tag ?_
  simpa using opensMarks_tag.resumes_append hmark []

/-- It ends with a closing one, too. -/
theorem IsTorn.getLast?_eq (htorn : IsTorn part) : part.getLast? = some ']' := by
  obtain ⟨mark, hmark, hreplaced⟩ := htorn
  have hlast : ∀ c ∈ part.getLast?, c = ']' := by
    refine hreplaced.getLast?_eq closesMarks_tag ?_
    obtain ⟨inside, rfl⟩ := closesMarks_tag mark hmark
    simp
  cases hend : part.getLast? with
  | some c => rw [hlast c hend]
  | none =>
    obtain rfl := List.getLast?_eq_none_iff.mp hend
    obtain rfl := hreplaced.eq_of_free (opensMarks_tag.free_of_notMem List.not_mem_nil)
    exact absurd (opensMarks_tag.length_pos hmark) (Nat.lt_irrefl 0)

/-- What is left of a text with a torn part in it has a tag. -/
theorem exists_replaced_of_isTorn (htorn : IsTorn part) (hpart : part <:+: text) :
    ∃ plain, Replaced IsTag [] text plain ∧ ¬ Free IsTag plain := by
  obtain ⟨mark, hmark, hreplaced⟩ := id htorn
  obtain ⟨before, after, rfl⟩ := hpart
  obtain ⟨shown, hbefore⟩ := opensMarks_tag.exists_replaced [] before
  obtain ⟨further, hafter⟩ := opensMarks_tag.exists_replaced [] after
  -- No tag stands across either end of the part, so that the three are gone through by themselves.
  have hfront : Replaced IsTag [] (before ++ part) (shown ++ mark) :=
    hbefore.append hreplaced (opensMarks_tag.apart htorn.resumes)
  have hends : (before ++ part).getLast? = some ']' := by
    simp [List.getLast?_append, htorn.getLast?_eq]
  refine ⟨shown ++ mark ++ further,
    hfront.append hafter (apart_of_getLast? notMem_dropLast_of_isTag hends), fun hfree => ?_⟩
  exact hfree mark (List.infix_append shown mark further) hmark

/-- A tag that is left was torn apart in the text. -/
theorem exists_isTorn_of_replaced (hreplaced : Replaced IsTag [] text plain)
    (hleft : ¬ Free IsTag plain) : ∃ part, part <:+: text ∧ IsTorn part := by
  unfold Free at hleft
  push Not at hleft
  obtain ⟨mark, ⟨before, after, rfl⟩, hmark⟩ := hleft
  obtain ⟨front, behind, rfl, hfront, _⟩ := hreplaced.exists_append
  obtain ⟨ahead, part, rfl, _, hpart⟩ := hfront.exists_append
  exact ⟨part, List.infix_append ahead part behind, mark, hmark, hpart⟩

/-- No tag is left where no part of the text is torn. -/
theorem free_plainText_of_forall (hshown : IsShown raw player text)
    (hnone : ∀ part, part <:+: text → ¬ IsTorn part) :
    Free IsTag (plainText raw player).toList := by
  obtain ⟨plain, hreplaced⟩ := opensMarks_tag.exists_replaced [] text
  rw [plainText_of_replaced hshown hreplaced, String.toList_ofList]
  by_contra hleft
  obtain ⟨part, hpart, htorn⟩ := exists_isTorn_of_replaced hreplaced hleft
  exact hnone part hpart htorn

/-- No tag is left in the plain text exactly if no part of the text becomes a tag when its own tags
are taken out. -/
theorem free_plainText_iff (hshown : IsShown raw player text) :
    Free IsTag (plainText raw player).toList ↔ ∀ part, part <:+: text → ¬ IsTorn part := by
  refine ⟨fun hfree part hpart htorn => ?_, free_plainText_of_forall hshown⟩
  obtain ⟨plain, hreplaced, hleft⟩ := exists_replaced_of_isTorn htorn hpart
  rw [plainText_of_replaced hshown hreplaced, String.toList_ofList] at hfree
  exact hleft hfree

end Dialogue

namespace Sample

open Dialogue Text

theorem isTag_bold : IsTag "[b]".toList := by
  have hbold : Tag.bold.IsWritten (bracketed ['b']) :=
    Tag.isWritten_of_ofBody? (by decide) (by decide)
  exact ⟨.bold, hbold⟩

/-- A tag is torn apart by another one behind its opening bracket. -/
theorem isTorn_bold : IsTorn "[[b]b]".toList := by
  have hopening : Free IsTag "[".toList := by
    intro part hpart hmark
    have hlength := hpart.length_le
    obtain ⟨_, body, _, _, rfl⟩ := hmark
    simp [bracketed] at hlength
  have hreplaced : Replaced IsTag [] ("[".toList ++ ("[b]".toList ++ "b]".toList))
      ("[".toList ++ ([] ++ "b]".toList)) :=
    .mark hopening isTag_bold (.free (opensMarks_tag.free_of_notMem (by decide)))
  exact ⟨_, isTag_bold, hreplaced⟩

/-- The greeting is shown with a tag. -/
theorem not_free_plainText_torn :
    IsShown "[[b]b]Hi".toList "" "[[b]b]Hi".toList ∧
      plainText "[[b]b]Hi".toList "" = "[b]Hi" ∧
      ¬ Free IsTag (plainText "[[b]b]Hi".toList "").toList := by
  have hshown : IsShown "[[b]b]Hi".toList "" "[[b]b]Hi".toList :=
    isShown_self (by decide) (by decide)
  refine ⟨hshown, by decide +kernel, fun hfree => ?_⟩
  exact (free_plainText_iff hshown).mp hfree "[[b]b]".toList ⟨[], "Hi".toList, rfl⟩ isTorn_bold

/-- The plain text is not free of tags whatever the text is. -/
theorem not_free_plainText :
    ¬ ∀ (raw : List Char) (player : String), Free IsTag (plainText raw player).toList := by
  intro hall
  have hplain : plainText "[[b]b]Hi".toList "" = "[b]Hi" := by decide +kernel
  have hfree := hall "[[b]b]Hi".toList ""
  rw [hplain] at hfree
  exact hfree "[b]".toList ⟨[], "Hi".toList, rfl⟩ isTag_bold

end Sample
end VisualNovel
