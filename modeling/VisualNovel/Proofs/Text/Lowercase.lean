/-
# Lower case once and for all

Lower case of a text in lower case is the text itself. The mapping is a table, and what the table
maps to is not mapped any further, which is a fact about the table: no run of characters is sent
onto another one, or between two of them that are two apart. The two rules beyond the table fit in,
since neither the dotted capital I nor the capital sigma is the image of anything.

Where a word ends does not matter for this. The final sigma is in lower case as well as the other.
-/

import VisualNovel.Text.Lowercase

namespace VisualNovel.Text

namespace CaseRun

variable {run other : CaseRun} {code : Nat}

/-- What a code point of the progression is mapped to. -/
def image (run : CaseRun) (code : Nat) : Nat := (code + run.shift).toNat

/-- The progression goes in steps of two, or has only one member. -/
def skips (run : CaseRun) : Bool := run.stride == 2 || run.first == run.last

/-- No member of the first progression is mapped to a member of the second: they are mapped before
it, behind it, or between members that are two apart. -/
def misses (run other : CaseRun) : Bool :=
  Nat.blt (run.image run.last) other.first || Nat.blt other.last (run.image run.first) ||
    run.skips && other.skips && run.image run.first % 2 != other.first % 2

theorem covers_iff :
    run.covers code = true ↔
      run.first ≤ code ∧ code ≤ run.last ∧ (code - run.first) % run.stride = 0 := by
  simp [covers, and_assoc]

/-- In a progression that skips, all members are even or all are odd. -/
theorem mod_two_of_skips (hskips : run.skips = true) (hcovers : run.covers code = true) :
    code % 2 = run.first % 2 := by
  obtain ⟨hfirst, hlast, hstride⟩ := covers_iff.mp hcovers
  simp only [skips, Bool.or_eq_true, beq_iff_eq] at hskips
  rcases hskips with htwo | hsingle
  · rw [htwo] at hstride
    omega
  · omega

theorem not_covers_image (hpositive : 0 < run.image run.first) (hmisses : run.misses other = true)
    (hcovers : run.covers code = true) : other.covers (run.image code) = false := by
  obtain ⟨hfirst, hlast, _⟩ := covers_iff.mp hcovers
  rw [← Bool.not_eq_true]
  intro hother
  obtain ⟨hlow, hhigh, _⟩ := covers_iff.mp hother
  simp only [misses, Bool.or_eq_true, Bool.and_eq_true, bne_iff_ne, Nat.blt_eq] at hmisses
  rcases hmisses with (hbefore | hbehind) | ⟨⟨hskips, hothers⟩, hparity⟩
  · simp only [image] at hbefore hlow
    omega
  · simp only [image] at hbehind hhigh
    omega
  · have hcode := mod_two_of_skips hskips hcovers
    have himage := mod_two_of_skips hothers hother
    simp only [image] at hpositive hparity himage
    omega

end CaseRun

/-- The capital I with a dot above, as a progression of one character. -/
def dottedCapital : CaseRun := ⟨0x130, 0x130, 1, 0⟩

/-- No character of the table is mapped to another one, nor to the capital I with a dot above. -/
theorem misses_of_mem {run other : CaseRun} (hrun : run ∈ lowercaseRuns)
    (hother : other ∈ dottedCapital :: lowercaseRuns) : run.misses other = true := by
  have hall : (lowercaseRuns.all fun run =>
      (dottedCapital :: lowercaseRuns).all fun other => run.misses other) = true := by
    decide +kernel
  exact List.all_eq_true.mp (List.all_eq_true.mp hall run hrun) other hother

/-- The table maps to letters, and these come behind the capital letters of ASCII. -/
theorem le_image_of_mem {run : CaseRun} (hrun : run ∈ lowercaseRuns) :
    'a'.toNat ≤ run.image run.first := by
  have hall : ∀ run ∈ lowercaseRuns, 'a'.toNat ≤ run.image run.first := by decide +kernel
  exact hall run hrun

/-- Lower case leaves the character as it is. -/
def IsLowercase (c : Char) : Prop :=
  ∀ run ∈ dottedCapital :: lowercaseRuns, run.covers c.toNat = false

instance (c : Char) : Decidable (IsLowercase c) :=
  List.decidableBAll (fun run : CaseRun => run.covers c.toNat = false) _

variable {c : Char} {before text : List Char}

/-- What is given without the table is in lower case. -/
theorem isLowercase_unlisted (hmem : c ∈ ['\u0000', 'i', '\u0307', 'ς', 'σ']) : IsLowercase c := by
  have hall : ['\u0000', 'i', '\u0307', 'ς', 'σ'].all fun c => IsLowercase c := by decide +kernel
  exact of_decide_eq_true (List.all_eq_true.mp hall c hmem)

/-- What it is given for is not. -/
theorem ne_unlisted (hlower : IsLowercase c) : c ≠ 'İ' ∧ c ≠ 'Σ' := by
  have hall : ['İ', 'Σ'].all fun c => ¬ IsLowercase c := by decide +kernel
  have hnot := fun d hd => of_decide_eq_true (List.all_eq_true.mp hall d hd)
  refine ⟨?_, ?_⟩
  · rintro rfl
    exact hnot 'İ' (by simp) hlower
  · rintro rfl
    exact hnot 'Σ' (by simp) hlower

/-- A character is mapped by a run of the table, or there is none for it and it stays. Were it
mapped to what is no code point of a character, the null character would stand for it. -/
theorem lowercaseChar_cases (c : Char) :
    (lowercaseChar c = c ∧ ∀ run ∈ lowercaseRuns, run.covers c.toNat = false) ∨
      ∃ run ∈ lowercaseRuns, run.covers c.toNat = true ∧
        ((lowercaseChar c).toNat = run.image c.toNat ∨ (lowercaseChar c).toNat = 0) := by
  unfold lowercaseChar
  cases hfound : lowercaseRuns.find? (·.covers c.toNat) with
  | none => exact .inl ⟨rfl, by simpa using hfound⟩
  | some run =>
    have hcovers := List.find?_some hfound
    refine .inr ⟨run, List.mem_of_find?_eq_some hfound, hcovers, ?_⟩
    by_cases hvalid : (run.image c.toNat).isValidChar
    · have hcode : Char.ofNat (run.image c.toNat) = Char.ofNatAux _ hvalid := dif_pos hvalid
      exact .inl (congrArg Char.toNat hcode)
    · have hcode : Char.ofNat (run.image c.toNat) = '\u0000' := dif_neg hvalid
      exact .inr (congrArg Char.toNat hcode)

theorem lowercaseChar_eq_self (hlower : IsLowercase c) : lowercaseChar c = c := by
  rcases lowercaseChar_cases c with ⟨hsame, _⟩ | ⟨run, hrun, hcovers, _⟩
  · exact hsame
  · rw [hlower run (List.mem_cons_of_mem _ hrun)] at hcovers
    cases hcovers

/-- What a character is mapped to is mapped no further. -/
theorem isLowercase_lowercaseChar (hdotted : c ≠ 'İ') : IsLowercase (lowercaseChar c) := by
  rcases lowercaseChar_cases c with ⟨hsame, hnone⟩ | ⟨run, hrun, hcovers, himage | hnull⟩
  · rw [hsame]
    refine List.forall_mem_cons.mpr ⟨?_, hnone⟩
    rw [← Bool.not_eq_true]
    intro hcovers
    obtain ⟨hlow, hhigh, _⟩ := CaseRun.covers_iff.mp hcovers
    exact hdotted (Char.toNat_inj.mp (Nat.le_antisymm hhigh hlow))
  · intro other hother
    rw [himage]
    have hletter := le_image_of_mem hrun
    exact CaseRun.not_covers_image (Nat.lt_of_lt_of_le (by decide) hletter)
      (misses_of_mem hrun hother) hcovers
  · rw [IsLowercase, hnull]
    exact isLowercase_unlisted List.mem_cons_self

/-- Only letters are mapped to letters. -/
theorem eq_of_lowercaseChar {image : Char} (hpositive : 0 < image.toNat)
    (hbefore : image.toNat < 'a'.toNat) (himage : lowercaseChar c = image) : c = image := by
  rcases lowercaseChar_cases c with ⟨hsame, _⟩ | ⟨run, hrun, hcovers, hmapped⟩
  · rw [← hsame, himage]
  · have hletter := le_image_of_mem hrun
    obtain ⟨hfirst, _⟩ := CaseRun.covers_iff.mp hcovers
    rw [himage] at hmapped
    simp only [CaseRun.image] at hletter hmapped
    omega

/-- The lower-case form of one character, where `before` stands in front of it and `rest` behind. -/
def lowercaseImage (before : List Char) (c : Char) (rest : List Char) : List Char :=
  if c = 'İ' then ['i', '\u0307']
  else if c = 'Σ' then if startsCased before && !startsCased rest then ['ς'] else ['σ']
  else [lowercaseChar c]

theorem lowercaseFrom_cons (before : List Char) (c : Char) (rest : List Char) :
    lowercaseFrom before (c :: rest) =
      lowercaseImage before c rest ++ lowercaseFrom (c :: before) rest := rfl

/-- It is one of the characters that the two rules beyond the table give, or the table gives it. -/
theorem mem_lowercaseImage {image : Char} {rest : List Char}
    (hmem : image ∈ lowercaseImage before c rest) :
    image ∈ ['i', '\u0307', 'ς', 'σ'] ∨ c ≠ 'İ' ∧ lowercaseChar c = image := by
  unfold lowercaseImage at hmem
  by_cases hdotted : c = 'İ'
  · rw [if_pos hdotted] at hmem
    exact .inl (List.mem_append_left ['ς', 'σ'] hmem)
  · rw [if_neg hdotted] at hmem
    split at hmem
    · left
      split at hmem <;> simp [List.mem_singleton.mp hmem]
    · exact .inr ⟨hdotted, (List.mem_singleton.mp hmem).symm⟩

theorem isLowercase_of_mem_image {image : Char} {rest : List Char}
    (hmem : image ∈ lowercaseImage before c rest) : IsLowercase image := by
  rcases mem_lowercaseImage hmem with hrule | ⟨hdotted, rfl⟩
  · exact isLowercase_unlisted (List.mem_cons_of_mem _ hrule)
  · exact isLowercase_lowercaseChar hdotted

/-- A mark that stands in front of the letters of ASCII is the lower case of itself alone. -/
theorem eq_of_mem_image {image : Char} {rest : List Char} (hpositive : 0 < image.toNat)
    (hbefore : image.toNat < 'a'.toNat) (hmem : image ∈ lowercaseImage before c rest) :
    c = image := by
  have hrules : ['i', '\u0307', 'ς', 'σ'].all fun image => 'a'.toNat ≤ image.toNat := by decide
  rcases mem_lowercaseImage hmem with hrule | ⟨_, himage⟩
  · have hbehind := of_decide_eq_true (List.all_eq_true.mp hrules image hrule)
    exact absurd hbefore (Nat.not_lt.mpr hbehind)
  · exact eq_of_lowercaseChar hpositive hbefore himage

/-- Every character of a text in lower case is in lower case. -/
theorem isLowercase_of_mem_lowercaseFrom (hmem : c ∈ lowercaseFrom before text) :
    IsLowercase c := by
  induction text generalizing before with
  | nil => cases hmem
  | cons d rest ih =>
    rw [lowercaseFrom_cons] at hmem
    rcases List.mem_append.mp hmem with himage | hrest
    · exact isLowercase_of_mem_image himage
    · exact ih hrest

/-- A text of such characters stays as it is, whatever stands in front of it. -/
theorem lowercaseFrom_eq_self (hlower : ∀ c ∈ text, IsLowercase c) :
    lowercaseFrom before text = text := by
  induction text generalizing before with
  | nil => rfl
  | cons c rest ih =>
    obtain ⟨hc, hrest⟩ := List.forall_mem_cons.mp hlower
    obtain ⟨hdotted, hsigma⟩ := ne_unlisted hc
    rw [lowercaseFrom_cons, ih hrest, lowercaseImage, if_neg hdotted, if_neg hsigma,
      lowercaseChar_eq_self hc]
    rfl

theorem isLowercase_of_mem_lowercase (hmem : c ∈ lowercase text) : IsLowercase c :=
  isLowercase_of_mem_lowercaseFrom hmem

theorem lowercase_eq_self (hlower : ∀ c ∈ text, IsLowercase c) : lowercase text = text :=
  lowercaseFrom_eq_self hlower

/-- A mark that stands in front of the letters of ASCII is in the lower case of a text only if it is
in the text. -/
theorem mem_of_mem_lowercaseFrom (hpositive : 0 < c.toNat) (hbefore : c.toNat < 'a'.toNat)
    (hmem : c ∈ lowercaseFrom before text) : c ∈ text := by
  induction text generalizing before with
  | nil => cases hmem
  | cons d rest ih =>
    rw [lowercaseFrom_cons] at hmem
    rcases List.mem_append.mp hmem with himage | hrest
    · rw [eq_of_mem_image hpositive hbefore himage]
      exact List.mem_cons_self
    · exact List.mem_cons_of_mem _ (ih hrest)

theorem mem_of_mem_lowercase (hpositive : 0 < c.toNat) (hbefore : c.toNat < 'a'.toNat)
    (hmem : c ∈ lowercase text) : c ∈ text :=
  mem_of_mem_lowercaseFrom hpositive hbefore hmem

end VisualNovel.Text
