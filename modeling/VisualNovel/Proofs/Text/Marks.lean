/-
# Marks in a text

A mark is a part of a text that stands for something else. Marks of one kind are told by how they
are spelled, and all of them begin with a character that no mark has anywhere else. Two marks that
stand in one text then never overlap, and it makes sense to speak of every mark of a text, in
whatever order they are looked for.

The text in which every mark is replaced is therefore a relation between two texts, which says
nothing of how the marks are found. A function that goes through a text once, from the left,
computes it.
-/

import Mathlib.Data.List.Infix

namespace VisualNovel.Text

variable {IsMark : List Char → Prop} {opening : Char}

/-- Every mark begins with the character and has it nowhere else. -/
def OpensMarks (opening : Char) (IsMark : List Char → Prop) : Prop :=
  ∀ mark, IsMark mark → ∃ inside, mark = opening :: inside ∧ opening ∉ inside

/-- Every mark ends with the character. -/
def ClosesMarks (closing : Char) (IsMark : List Char → Prop) : Prop :=
  ∀ mark, IsMark mark → ∃ inside, mark = inside ++ [closing]

/-- No part of the text is a mark. -/
def Free (IsMark : List Char → Prop) (text : List Char) : Prop :=
  ∀ part, part <:+: text → ¬ IsMark part

/-- The text is at an end or goes on with the character. -/
def Resumes (opening : Char) (text : List Char) : Prop := ∀ c ∈ text.head?, c = opening

theorem resumes_nil (opening : Char) : Resumes opening [] := by simp [Resumes]

theorem resumes_cons (opening : Char) (rest : List Char) : Resumes opening (opening :: rest) := by
  simp [Resumes]

theorem Free.of_infix {text part : List Char} (hfree : Free IsMark text) (hpart : part <:+: text) :
    Free IsMark part :=
  fun inside hinside => hfree inside (hinside.trans hpart)

/-- Behind a text, what does not have the character that ends marks adds no mark. -/
theorem ClosesMarks.free_append_right_iff {closing : Char} (hcloses : ClosesMarks closing IsMark)
    {text after : List Char} (hnone : closing ∉ after) :
    Free IsMark (text ++ after) ↔ Free IsMark text := by
  refine ⟨fun hfree => hfree.of_infix (List.prefix_append text after).isInfix, fun hfree => ?_⟩
  induction after using List.reverseRecOn with
  | nil => rwa [List.append_nil]
  | append_singleton after c ih =>
    rw [List.mem_append, List.mem_singleton, not_or] at hnone
    intro part hpart hmark
    rw [← List.append_assoc, List.infix_concat_iff] at hpart
    rcases hpart with hend | hearlier
    · obtain ⟨inside, rfl⟩ := hcloses part hmark
      rcases List.suffix_concat_iff.mp hend with hnil | ⟨others, hsame, _⟩
      · simp at hnil
      · exact hnone.2 (List.concat_inj.mp (by simpa using hsame)).2
    · exact ih hnone.1 part hearlier hmark

namespace OpensMarks

/-- A text without the character has no mark. -/
theorem free_of_notMem (hopens : OpensMarks opening IsMark) {text : List Char}
    (hnone : opening ∉ text) : Free IsMark text := by
  intro part hpart hmark
  obtain ⟨inside, rfl, _⟩ := hopens part hmark
  exact hnone (hpart.subset List.mem_cons_self)

/-- In front of a text, what does not have the character adds no mark. -/
theorem free_append_left_iff (hopens : OpensMarks opening IsMark) {before text : List Char}
    (hnone : opening ∉ before) : Free IsMark (before ++ text) ↔ Free IsMark text := by
  refine ⟨fun hfree => hfree.of_infix (List.suffix_append before text).isInfix, fun hfree => ?_⟩
  induction before with
  | nil => exact hfree
  | cons c before ih =>
    rw [List.mem_cons, not_or] at hnone
    intro part hpart hmark
    rcases List.infix_cons_iff.mp hpart with hhere | hlater
    · obtain ⟨inside, rfl, _⟩ := hopens part hmark
      exact hnone.1 (List.cons_prefix_cons.mp hhere).1
    · exact ih hnone.2 part hlater hmark

theorem resumes_append (hopens : OpensMarks opening IsMark) {mark : List Char} (hmark : IsMark mark)
    (rest : List Char) : Resumes opening (mark ++ rest) := by
  obtain ⟨inside, rfl, _⟩ := hopens mark hmark
  exact resumes_cons opening (inside ++ rest)

theorem length_pos (hopens : OpensMarks opening IsMark) {mark : List Char} (hmark : IsMark mark) :
    0 < mark.length := by
  obtain ⟨inside, rfl, _⟩ := hopens mark hmark
  exact Nat.succ_pos _

/-- Where a text without marks is at an end or goes on with a mark, no mark begins in it that would
reach across its end. -/
theorem append_ne_append (hopens : OpensMarks opening IsMark) {before rest mark after : List Char}
    (hfree : Free IsMark before) (hbefore : before ≠ []) (hrest : Resumes opening rest)
    (hmark : IsMark mark) : before ++ rest ≠ mark ++ after := by
  intro hsame
  rcases List.append_eq_append_iff.mp hsame with ⟨across, hacross, htail⟩ | ⟨behind, hbehind, _⟩
  · cases across with
    | nil =>
      rw [List.append_nil] at hacross
      exact hfree before (List.infix_refl _) (hacross ▸ hmark)
    | cons c across =>
      -- The mark would have its opening character a second time, where the rest begins.
      obtain rfl : c = opening := hrest c (by rw [htail]; rfl)
      obtain ⟨inside, hinside, hnone⟩ := hopens mark hmark
      obtain ⟨first, others, rfl⟩ := List.exists_cons_of_ne_nil hbefore
      rw [hacross, List.cons_append, List.cons.injEq] at hinside
      exact hnone (by simp [← hinside.2])
  · exact hfree mark (hbehind ▸ (List.prefix_append mark behind).isInfix) hmark

/-- The first mark of a text that has any. -/
theorem exists_first (hopens : OpensMarks opening IsMark) (text : List Char) :
    Free IsMark text ∨ ∃ before mark rest, text = before ++ (mark ++ rest) ∧
      Free IsMark before ∧ IsMark mark := by
  induction text with
  | nil => exact .inl (hopens.free_of_notMem List.not_mem_nil)
  | cons c text ih =>
    by_cases hhere : ∃ mark rest, IsMark mark ∧ c :: text = mark ++ rest
    · obtain ⟨mark, rest, hmark, htext⟩ := hhere
      exact .inr ⟨[], mark, rest, htext, hopens.free_of_notMem List.not_mem_nil, hmark⟩
    · -- A mark that does not begin here begins further on.
      have hcons {others rest : List Char} (hothers : Free IsMark others)
          (htext : text = others ++ rest) : Free IsMark (c :: others) := by
        intro part hpart hmark
        rcases List.infix_cons_iff.mp hpart with ⟨after, hafter⟩ | hlater
        · exact hhere ⟨part, after ++ rest, hmark, by rw [htext, ← List.append_assoc, hafter]; rfl⟩
        · exact hothers part hlater hmark
      rcases ih with hfree | ⟨before, mark, rest, htext, hbefore, hmark⟩
      · exact .inl (hcons hfree (List.append_nil text).symm)
      · exact .inr ⟨c :: before, mark, rest, by rw [htext]; rfl, hcons hbefore htext, hmark⟩

end OpensMarks

/-- The second text is the first with the image in place of every mark. -/
inductive Replaced (IsMark : List Char → Prop) (image : List Char) : List Char → List Char → Prop
  | free {text : List Char} (hfree : Free IsMark text) : Replaced IsMark image text text
  | mark {before mark rest result : List Char} (hbefore : Free IsMark before) (hmark : IsMark mark)
      (hrest : Replaced IsMark image rest result) :
      Replaced IsMark image (before ++ (mark ++ rest)) (before ++ (image ++ result))

variable {image text result : List Char}

/-- In every text the marks can be replaced. -/
theorem OpensMarks.exists_replaced (hopens : OpensMarks opening IsMark) (image text : List Char) :
    ∃ result, Replaced IsMark image text result := by
  rcases hopens.exists_first text with hfree | ⟨before, mark, rest, htext, hbefore, hmark⟩
  · exact ⟨text, .free hfree⟩
  · obtain ⟨result, hresult⟩ := hopens.exists_replaced image rest
    exact ⟨before ++ (image ++ result), htext ▸ .mark hbefore hmark hresult⟩
termination_by text.length
decreasing_by
  have hpositive := hopens.length_pos hmark
  simp only [htext, List.length_append]
  omega

/-- The function replaces a mark where it meets one, and keeps every other character. -/
structure Replaces (replace : List Char → List Char) (IsMark : List Char → Prop)
    (image : List Char) : Prop where
  nil : replace [] = []
  mark {mark rest : List Char} (hmark : IsMark mark) :
    replace (mark ++ rest) = image ++ replace rest
  cons {c : Char} {rest : List Char}
    (hnone : ∀ mark after, IsMark mark → c :: rest ≠ mark ++ after) :
    replace (c :: rest) = c :: replace rest

namespace Replaces

variable {replace : List Char → List Char}

/-- In front of a mark or the end, a text without marks is kept. -/
theorem append_of_free (hreplaces : Replaces replace IsMark image)
    (hopens : OpensMarks opening IsMark) {before rest : List Char} (hfree : Free IsMark before)
    (hrest : Resumes opening rest) : replace (before ++ rest) = before ++ replace rest := by
  induction before with
  | nil => rfl
  | cons c before ih =>
    have hhere : replace (c :: (before ++ rest)) = c :: replace (before ++ rest) :=
      hreplaces.cons fun mark after hmark =>
        hopens.append_ne_append hfree (List.cons_ne_nil c before) hrest hmark
    rw [List.cons_append, hhere, ih (hfree.of_infix (List.suffix_cons c before).isInfix)]
    rfl

/-- By induction on the marks, such a function replaces all of them, in every text. -/
theorem replaced_iff (hreplaces : Replaces replace IsMark image)
    (hopens : OpensMarks opening IsMark) :
    Replaced IsMark image text result ↔ replace text = result := by
  have hsound {text result : List Char} (hreplaced : Replaced IsMark image text result) :
      replace text = result := by
    induction hreplaced with
    | @free text hfree =>
      have hwhole := hreplaces.append_of_free hopens hfree (resumes_nil opening)
      rwa [List.append_nil, hreplaces.nil, List.append_nil] at hwhole
    | @mark before mark rest result hbefore hmark _ ih =>
      rw [hreplaces.append_of_free hopens hbefore (hopens.resumes_append hmark rest),
        hreplaces.mark hmark, ih]
  constructor
  · exact hsound
  · rintro rfl
    obtain ⟨result, hresult⟩ := hopens.exists_replaced image text
    rwa [hsound hresult]

end Replaces

namespace Replaced

/-- A text without marks is kept. -/
theorem eq_of_free (hreplaced : Replaced IsMark image text result) (hfree : Free IsMark text) :
    result = text := by
  cases hreplaced with
  | free _ => rfl
  | @mark before mark rest _ _ hmark _ =>
    exact absurd hmark (hfree mark (List.infix_append' before mark rest))

/-- Images that are shorter than the marks make no text longer. -/
theorem length_le (hshorter : ∀ mark, IsMark mark → image.length < mark.length)
    (hreplaced : Replaced IsMark image text result) : result.length ≤ text.length := by
  induction hreplaced with
  | free => exact le_refl _
  | mark _ hmark _ ih =>
    have hless := hshorter _ hmark
    simp only [List.length_append]
    omega

/-- They make a text shorter if it has any mark. -/
theorem free_of_length_le (hshorter : ∀ mark, IsMark mark → image.length < mark.length)
    (hreplaced : Replaced IsMark image text result) (hlength : text.length ≤ result.length) :
    Free IsMark text := by
  cases hreplaced with
  | free hfree => exact hfree
  | mark _ hmark hrest =>
    have hless := hshorter _ hmark
    have hrest := hrest.length_le hshorter
    simp only [List.length_append] at hlength
    omega

end Replaced

/-- No mark reaches from the end of the first text into the second. -/
def Apart (IsMark : List Char → Prop) (first second : List Char) : Prop :=
  ∀ before after, before ≠ [] → after ≠ [] → before <:+ first → after <+: second →
    ¬ IsMark (before ++ after)

variable {first second : List Char}

theorem Apart.mono {shorter sooner : List Char} (hapart : Apart IsMark first second)
    (hfirst : shorter <:+ first) (hsecond : sooner <+: second) : Apart IsMark shorter sooner :=
  fun before after hbefore hafter hends hbegins =>
    hapart before after hbefore hafter (hends.trans hfirst) (hbegins.trans hsecond)

/-- In front of the character with which marks begin, no mark reaches on. -/
theorem OpensMarks.apart (hopens : OpensMarks opening IsMark) (hsecond : Resumes opening second) :
    Apart IsMark first second := by
  intro before after hbefore hafter _ hbegins hmark
  obtain ⟨inside, hinside, hnone⟩ := hopens _ hmark
  obtain ⟨b, before, rfl⟩ := List.exists_cons_of_ne_nil hbefore
  obtain ⟨a, after, rfl⟩ := List.exists_cons_of_ne_nil hafter
  obtain ⟨rest, rfl⟩ := hbegins
  obtain rfl : a = opening := hsecond a rfl
  rw [List.cons_append, List.cons.injEq] at hinside
  exact hnone (by simp [← hinside.2])

/-- Behind the character with which marks end, none reaches on that has it nowhere else. -/
theorem apart_of_getLast? {closing : Char}
    (honly : ∀ mark, IsMark mark → closing ∉ mark.dropLast)
    (hfirst : first.getLast? = some closing) : Apart IsMark first second := by
  intro before after hbefore hafter hends _ hmark
  have hlast : before.getLast? = some closing := by
    obtain ⟨rest, rfl⟩ := hends
    rwa [List.getLast?_append_of_ne_nil _ hbefore] at hfirst
  refine honly _ hmark ?_
  rw [List.dropLast_append_of_ne_nil hafter]
  exact List.mem_append_left _ (List.mem_of_getLast? hlast)

theorem Free.append (hfirst : Free IsMark first) (hsecond : Free IsMark second)
    (hapart : Apart IsMark first second) : Free IsMark (first ++ second) := by
  intro part hpart hmark
  rcases List.infix_append_iff.mp hpart with hleft | hright | ⟨before, after, rfl, hends, hbegins⟩
  · exact hfirst part hleft hmark
  · exact hsecond part hright hmark
  · rcases eq_or_ne before [] with rfl | hbefore
    · exact hsecond after hbegins.isInfix hmark
    · rcases eq_or_ne after [] with rfl | hafter
      · rw [List.append_nil] at hmark
        exact hfirst before hends.isInfix hmark
      · exact hapart before after hbefore hafter hends hbegins hmark

namespace Replaced

variable {plain rest : List Char}

theorem free_append (hfree : Free IsMark first) (hreplaced : Replaced IsMark image second plain)
    (hapart : Apart IsMark first second) :
    Replaced IsMark image (first ++ second) (first ++ plain) := by
  cases hreplaced with
  | free hsecond => exact .free (hfree.append hsecond hapart)
  | @mark before mark rest result hbefore hmark hrest =>
    have hwhole : Free IsMark (first ++ before) :=
      hfree.append hbefore (hapart.mono (List.suffix_refl _) (List.prefix_append _ _))
    rw [← List.append_assoc first before, ← List.append_assoc first before]
    exact .mark hwhole hmark hrest

/-- Marks are replaced in two texts side by side as in each of them, unless one reaches across. -/
theorem append (hfirst : Replaced IsMark image first result)
    (hsecond : Replaced IsMark image second plain) (hapart : Apart IsMark first second) :
    Replaced IsMark image (first ++ second) (result ++ plain) := by
  induction hfirst with
  | free hfree => exact hsecond.free_append hfree hapart
  | @mark before mark rest result hbefore hmark _ ih =>
    have hends : rest <:+ before ++ (mark ++ rest) :=
      (List.suffix_append mark rest).trans (List.suffix_append before _)
    simp only [List.append_assoc]
    exact .mark hbefore hmark (ih (hapart.mono hends (List.prefix_refl _)))

/-- Where marks are dropped, the text can be cut wherever what is left of it is cut. -/
theorem exists_append {left right : List Char}
    (hreplaced : Replaced IsMark [] text (left ++ right)) :
    ∃ first second, text = first ++ second ∧ Replaced IsMark [] first left ∧
      Replaced IsMark [] second right := by
  generalize hresult : left ++ right = result at hreplaced
  induction hreplaced generalizing left right with
  | free hfree =>
    subst hresult
    exact ⟨left, right, rfl, .free (hfree.of_infix (List.prefix_append left right).isInfix),
      .free (hfree.of_infix (List.suffix_append left right).isInfix)⟩
  | @mark before mark rest result hbefore hmark hrest ih =>
    rw [List.nil_append] at hresult
    rcases List.append_eq_append_iff.mp hresult with ⟨behind, rfl, rfl⟩ | ⟨across, rfl, rfl⟩
    · -- The cut is in front of the mark.
      refine ⟨left, behind ++ (mark ++ rest), by simp,
        .free (hbefore.of_infix (List.prefix_append left behind).isInfix), ?_⟩
      exact .mark (hbefore.of_infix (List.suffix_append left behind).isInfix) hmark hrest
    · obtain ⟨first, second, rfl, hleft, hright⟩ := ih rfl
      exact ⟨before ++ (mark ++ first), second, by simp, .mark hbefore hmark hleft, hright⟩

/-- A text of which something is left that begins with the character of marks begins with it. -/
theorem resumes (hopens : OpensMarks opening IsMark) (hreplaced : Replaced IsMark image text result)
    (hresult : Resumes opening result) : Resumes opening text := by
  cases hreplaced with
  | free => exact hresult
  | @mark before mark rest _ _ hmark _ =>
    cases before with
    | nil => exact hopens.resumes_append hmark rest
    | cons c before => exact hresult

/-- A text of which nothing is left, or something that ends with the character of marks, ends with
it if it is not empty. -/
theorem getLast?_eq {closing : Char} (hcloses : ClosesMarks closing IsMark)
    (hreplaced : Replaced IsMark [] text result)
    (hresult : ∀ c ∈ result.getLast?, c = closing) : ∀ c ∈ text.getLast?, c = closing := by
  induction hreplaced with
  | free => exact hresult
  | @mark before mark rest result _ hmark _ ih =>
    have hbehind : ∀ c ∈ result.getLast?, c = closing := by
      intro c hc
      exact hresult c (by simp [List.getLast?_append, Option.mem_def.mp hc])
    obtain ⟨inside, rfl⟩ := hcloses mark hmark
    intro c hc
    rw [List.getLast?_append, List.getLast?_append, List.getLast?_concat] at hc
    cases hrest : rest.getLast? with
    | none => simpa [hrest, eq_comm] using hc
    | some last =>
      have hsame : last = c := by simpa [hrest] using hc
      exact hsame ▸ ih hbehind last hrest

end Replaced
end VisualNovel.Text
