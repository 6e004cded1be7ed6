/-
# A text cut at its tags

A tag stands in a text as a bracket group with its body. No tag has an opening bracket behind its
first character, so that tags never overlap, and a text falls apart at its tags in one way only:
into stretches of text that is shown, each behind the tags that stand in front of it, and into the
tags at the end. What is in brackets and no tag belongs to the stretch that it stands in.

The cut is a relation between a text and its stretches. It does not say how a text is gone through,
and that every text can be cut is proved from its first tag on.
-/

import VisualNovel.Proofs.Dialogue.Tags
import VisualNovel.Proofs.Text.Marks

namespace VisualNovel.Dialogue

open Text

/-- What may stand between the brackets of a group: no bracket and no line break. -/
def IsGroupBody (body : List Char) : Prop := '[' ∉ body ∧ ']' ∉ body ∧ '\n' ∉ body

instance (body : List Char) : Decidable (IsGroupBody body) :=
  inferInstanceAs (Decidable (_ ∧ _ ∧ _))

/-- The bracket group with the body. -/
def bracketed (body : List Char) : List Char := '[' :: (body ++ [']'])

/-- The tag is written as the text. -/
def Tag.IsWritten (tag : Tag) (text : List Char) : Prop :=
  ∃ body, IsGroupBody body ∧ tag.HasBody body ∧ text = bracketed body

/-- The text is a tag. -/
def IsTag (text : List Char) : Prop := ∃ tag : Tag, tag.IsWritten text

/-- The tags are written as the text, one behind the other. -/
inductive Written : List Tag → List Char → Prop
  | nil : Written [] []
  | cons {tag : Tag} {tags : List Tag} {mark rest : List Char} (htag : tag.IsWritten mark)
      (hrest : Written tags rest) : Written (tag :: tags) (mark ++ rest)

/-- Text between two tags, and the tags in front of it. -/
structure Stretch where
  /-- The tags since the stretch before. -/
  tags : List Tag
  content : List Char
  deriving DecidableEq, Repr

/-- A text cut into the stretches with the tags in front of each, and the tags behind the last. Two
stretches are kept apart by a tag at least. -/
inductive Cut : List Stretch → List Tag → List Char → Prop
  | done {last : List Tag} {text : List Char} (hlast : Written last text) : Cut [] last text
  | cons {stretch : Stretch} {more : List Stretch} {last : List Tag} {written rest : List Char}
      (hwritten : Written stretch.tags written) (hcontent : stretch.content ≠ [])
      (hfree : Free IsTag stretch.content) (hmore : Cut more last rest)
      (happart : ∀ next ∈ more.head?, next.tags ≠ []) :
      Cut (stretch :: more) last (written ++ (stretch.content ++ rest))

theorem Tag.isWritten_of_ofBody? {tag : Tag} {body : List Char} (hbody : IsGroupBody body)
    (hread : Tag.ofBody? body = some tag) : tag.IsWritten (bracketed body) :=
  ⟨body, hbody, Tag.ofBody?_eq_some_iff.mp hread, rfl⟩

theorem opensMarks_tag : OpensMarks '[' IsTag := by
  rintro _ ⟨_, body, ⟨hopening, _, _⟩, _, rfl⟩
  exact ⟨body ++ [']'], rfl, by simp [hopening]⟩

theorem Written.resumes {tags : List Tag} {text : List Char} (hwritten : Written tags text) :
    Resumes '[' text := by
  cases hwritten with
  | nil => exact resumes_nil '['
  | cons htag _ => exact opensMarks_tag.resumes_append ⟨_, htag⟩ _

theorem Written.exists_hasBody {tags : List Tag} {text : List Char} (hwritten : Written tags text)
    {tag : Tag} (htag : tag ∈ tags) : ∃ body, tag.HasBody body := by
  induction hwritten with
  | nil => cases htag
  | cons hfirst _ ih =>
    rcases List.mem_cons.mp htag with rfl | hlater
    · obtain ⟨body, _, hbody, _⟩ := hfirst
      exact ⟨body, hbody⟩
    · exact ih hlater

namespace Cut

variable {stretches : List Stretch} {last : List Tag} {text : List Char}

/-- Behind a stretch the text is at its end or at a tag. -/
theorem resumes (hcut : Cut stretches last text)
    (happart : ∀ next ∈ stretches.head?, next.tags ≠ []) : Resumes '[' text := by
  cases hcut with
  | done hlast => exact hlast.resumes
  | @cons stretch more _ written rest hwritten =>
    have htags : stretch.tags ≠ [] := happart stretch rfl
    obtain ⟨tag, tags, hcons⟩ := List.exists_cons_of_ne_nil htags
    rw [hcons] at hwritten
    cases hwritten with
    | cons htag _ =>
      rw [List.append_assoc]
      exact opensMarks_tag.resumes_append ⟨tag, htag⟩ _

/-- A tag in front of a text that is cut belongs to the first stretch, or to the tags at the end. -/
theorem exists_append_left {tag : Tag} {mark : List Char} (htag : tag.IsWritten mark)
    (hcut : Cut stretches last text) :
    ∃ stretches' last', Cut stretches' last' (mark ++ text) ∧
      stretches'.flatMap (·.content) = stretches.flatMap (·.content) ∧
      ∀ next ∈ stretches'.head?, next.tags ≠ [] := by
  cases hcut with
  | done hlast => exact ⟨[], tag :: last, .done (.cons htag hlast), rfl, by simp⟩
  | @cons stretch more _ written rest hwritten hcontent hfree hmore happart =>
    refine ⟨⟨tag :: stretch.tags, stretch.content⟩ :: more, last, ?_, rfl, by simp⟩
    rw [← List.append_assoc]
    exact .cons (.cons htag hwritten) hcontent hfree hmore happart

/-- Text without a tag in front of a tag makes a stretch of its own, unless there is none. -/
theorem exists_append_free {before : List Char} (hfree : Free IsTag before)
    (hcut : Cut stretches last text) (happart : ∀ next ∈ stretches.head?, next.tags ≠ []) :
    ∃ stretches', Cut stretches' last (before ++ text) ∧
      stretches'.flatMap (·.content) = before ++ stretches.flatMap (·.content) := by
  by_cases hbefore : before = []
  · subst hbefore
    exact ⟨stretches, hcut, rfl⟩
  · have hmade : Cut (⟨[], before⟩ :: stretches) last ([] ++ (before ++ text)) :=
      .cons .nil hbefore hfree hcut happart
    exact ⟨⟨[], before⟩ :: stretches, hmade, rfl⟩

end Cut

/-- A text can be cut, and what is shown of it is the text without its tags. -/
theorem exists_cut_of_replaced {text plain : List Char} (hreplaced : Replaced IsTag [] text plain) :
    ∃ stretches last, Cut stretches last text ∧ stretches.flatMap (·.content) = plain := by
  induction hreplaced with
  | @free text hfree =>
    obtain ⟨stretches, hcut, hcontent⟩ := Cut.exists_append_free hfree (.done .nil) (by simp)
    rw [List.append_nil] at hcut
    exact ⟨stretches, [], hcut, by simpa using hcontent⟩
  | mark hbefore hmark _ ih =>
    obtain ⟨tag, htag⟩ := hmark
    obtain ⟨stretches, last, hcut, hcontent⟩ := ih
    obtain ⟨tagged, last', hcut, htagged, happart⟩ := hcut.exists_append_left htag
    obtain ⟨whole, hcut, hwhole⟩ := hcut.exists_append_free hbefore happart
    exact ⟨whole, last', hcut, by rw [hwhole, htagged, hcontent, List.nil_append]⟩

theorem exists_cut (text : List Char) : ∃ stretches last, Cut stretches last text := by
  obtain ⟨_, hreplaced⟩ := opensMarks_tag.exists_replaced [] text
  obtain ⟨stretches, last, hcut, _⟩ := exists_cut_of_replaced hreplaced
  exact ⟨stretches, last, hcut⟩

end VisualNovel.Dialogue
