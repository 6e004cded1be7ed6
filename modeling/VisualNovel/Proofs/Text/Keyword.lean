/-
# Keywords at the start of a text

A keyword is written in any letter case, and two characters outside ASCII count as letters of one.
Here the two ways of looking at this meet: the spellings of a keyword in ASCII, which are stripped
wherever they stand, and the texts from which a keyword can be stripped, which begin with at most
one of several keywords unless one of these is the beginning of another.
-/

import VisualNovel.Text.Folding
import Mathlib.Data.List.Basic

namespace VisualNovel.Text

/-- The text is the keyword, given in lower case, with each of its ASCII letters in either case. -/
def Spells (word : String) (text : List Char) : Prop := text.map Char.toLower = word.toList

instance (word : String) (text : List Char) : Decidable (Spells word text) :=
  inferInstanceAs (Decidable (_ = _))

theorem Spells.length_eq {word : String} {text : List Char} (hspells : Spells word text) :
    text.length = word.toList.length := by
  rw [← hspells, List.length_map]

/-- Every character of the text is an ASCII character. -/
def IsAscii (text : List Char) : Prop := ∀ c ∈ text, c.toNat < 128

-- Not every character is looked at to decide this, only those of the text.
instance (text : List Char) : Decidable (IsAscii text) :=
  List.decidableBAll (fun c : Char => c.toNat < 128) text

/-- What is no lower-case letter is the lower case of itself alone. -/
theorem eq_of_toLower_eq {c image : Char} (hlower : c.toLower = image)
    (hother : image.isLower = false) : c = image := by
  unfold Char.toLower at hlower
  split at hlower
  · rename_i hupper
    have hat : 65 ≤ c.val.toNat := hupper.1
    have hto : c.val.toNat ≤ 90 := hupper.2
    have hvalue : image.val.toNat = c.val.toNat + 32 := by
      rw [← hlower]
      change (c.val + 32).toNat = _
      rw [UInt32.toNat_add]
      change (c.val.toNat + 32) % 4294967296 = _
      omega
    have hletter : image.isLower = true := by
      change (decide (97 ≤ image.val.toNat) && decide (image.val.toNat ≤ 122)) = true
      simp only [Bool.and_eq_true, decide_eq_true_eq]
      omega
    rw [hletter] at hother
    cases hother
  · exact hlower

/-- A spelling of a keyword is stripped where the keyword is. -/
theorem stripFolded?_of_spells {word : String} {text rest : List Char}
    (hspells : Spells word text) : stripFolded? word.toList (text ++ rest) = some rest := by
  rw [← hspells]
  clear hspells
  induction text with
  | nil => rfl
  | cons c cs ih => simp [stripFolded?, foldsTo, ih]

/-- The character in lower case, with the two characters outside ASCII that are letters of keywords
sent to these letters. -/
def folded (c : Char) : Char :=
  if c = '\u212A' then 'k' else if c = '\u017F' then 's' else c.toLower

/-- Letter case aside, a character is no more than one ASCII character. -/
theorem eq_folded_of_foldsTo {letter c : Char} (hascii : letter.toNat < 128)
    (hfolds : foldsTo letter c = true) : letter = folded c := by
  simp only [foldsTo, Bool.or_eq_true, Bool.and_eq_true, beq_iff_eq] at hfolds
  rcases hfolds with (rfl | ⟨rfl, rfl⟩) | ⟨rfl, rfl⟩
  · -- Neither of the two is sent to ASCII by the lower case alone.
    have hkelvin : c ≠ '\u212A' := by
      rintro rfl
      exact absurd hascii (by decide)
    have hlong : c ≠ '\u017F' := by
      rintro rfl
      exact absurd hascii (by decide)
    rw [folded, if_neg hkelvin, if_neg hlong]
  · rfl
  · rfl

theorem foldsTo_iff {letter c : Char} (hascii : letter.toNat < 128) :
    foldsTo letter c = true ↔ folded c = letter := by
  constructor
  · exact fun hfolds => (eq_folded_of_foldsTo hascii hfolds).symm
  · rintro rfl
    unfold folded
    split
    · next hkelvin => rw [hkelvin]; rfl
    · split
      · next hlong => rw [hlong]; rfl
      · simp [foldsTo]

theorem eq_of_folded_eq {c image : Char} (hfolded : folded c = image)
    (hother : image.isLower = false) : c = image := by
  unfold folded at hfolded
  split at hfolded
  · rw [← hfolded] at hother
    cases hother
  · split at hfolded
    · rw [← hfolded] at hother
      cases hother
    · exact eq_of_toLower_eq hfolded hother

theorem isSome_stripFolded?_cons {letter c : Char} {letters rest : List Char} :
    (stripFolded? (letter :: letters) (c :: rest)).isSome ↔
      foldsTo letter c = true ∧ (stripFolded? letters rest).isSome := by
  by_cases hletter : foldsTo letter c = true <;> simp [stripFolded?, hletter]

/-- In a keyword without the two letters that have a further form, only ASCII letters are folded. -/
theorem spells_iff_map_folded {word : String} {mark : List Char} (hascii : IsAscii word.toList)
    (hforms : 'k' ∉ word.toList ∧ 's' ∉ word.toList) :
    Spells word mark ↔ mark.map folded = word.toList := by
  unfold Spells
  refine ⟨fun hmark => ?_, fun hmark => ?_⟩
  · have hsame : ∀ c ∈ mark, folded c = c.toLower := by
      intro c hc
      have hfolds : foldsTo c.toLower c = true := by simp [foldsTo]
      exact (foldsTo_iff (hascii _ (hmark ▸ List.mem_map_of_mem hc))).mp hfolds
    rw [List.map_congr_left hsame, hmark]
  · have hsame : ∀ c ∈ mark, c.toLower = folded c := by
      intro c hc
      have hmem : folded c ∈ word.toList := hmark ▸ List.mem_map_of_mem hc
      unfold folded at hmem ⊢
      split
      · next hkelvin => exact absurd (by simpa [hkelvin] using hmem) hforms.1
      · split
        · next hlong => exact absurd (by simpa [hlong] using hmem) hforms.2
        · rfl
    rw [List.map_congr_left hsame, hmark]

/-- What is stripped of a text is a spelling of the keyword at its start. -/
theorem stripFolded?_eq_some_iff {word text rest : List Char} (hascii : IsAscii word) :
    stripFolded? word text = some rest ↔ ∃ mark, mark.map folded = word ∧ text = mark ++ rest := by
  induction word generalizing text with
  | nil => simp [stripFolded?, eq_comm]
  | cons letter letters ih =>
    have hletter : letter.toNat < 128 := hascii letter List.mem_cons_self
    have hletters : IsAscii letters := fun c hc => hascii c (List.mem_cons_of_mem _ hc)
    constructor
    · intro hstrip
      cases text with
      | nil => cases hstrip
      | cons c text =>
        rw [stripFolded?] at hstrip
        split at hstrip
        · next hfolds =>
          obtain ⟨mark, hmark, rfl⟩ := (ih hletters).mp hstrip
          exact ⟨c :: mark, by rw [List.map_cons, (foldsTo_iff hletter).mp hfolds, hmark], rfl⟩
        · cases hstrip
    · rintro ⟨mark, hmark, rfl⟩
      obtain ⟨c, others, rfl, hc, hothers⟩ := List.map_eq_cons_iff.mp hmark
      rw [List.cons_append, stripFolded?, if_pos ((foldsTo_iff hletter).mpr hc)]
      exact (ih hletters).mpr ⟨others, hothers, rfl⟩

/-- Of two ASCII keywords at the start of one text, one is the beginning of the other. -/
theorem prefix_or_prefix_of_stripFolded? {first second text : List Char}
    (hfirst : IsAscii first) (hsecond : IsAscii second)
    (hleft : (stripFolded? first text).isSome) (hright : (stripFolded? second text).isSome) :
    first <+: second ∨ second <+: first := by
  induction first generalizing second text with
  | nil => exact .inl List.nil_prefix
  | cons letter letters ih =>
    cases second with
    | nil => exact .inr List.nil_prefix
    | cons other others =>
      cases text with
      | nil => simp [stripFolded?] at hleft
      | cons c rest =>
        obtain ⟨hletter, hletters⟩ := isSome_stripFolded?_cons.mp hleft
        obtain ⟨hother, hothers⟩ := isSome_stripFolded?_cons.mp hright
        obtain rfl : letter = other :=
          (eq_folded_of_foldsTo (hfirst _ List.mem_cons_self) hletter).trans
            (eq_folded_of_foldsTo (hsecond _ List.mem_cons_self) hother).symm
        have hrest := ih (fun c hc => hfirst c (List.mem_cons_of_mem _ hc))
          (fun c hc => hsecond c (List.mem_cons_of_mem _ hc)) hletters hothers
        simpa only [List.cons_prefix_cons, true_and] using hrest

/-- A keyword of two parts is stripped part by part. -/
theorem stripFolded?_append (first second text : List Char) :
    stripFolded? (first ++ second) text = (stripFolded? first text).bind (stripFolded? second) := by
  induction first generalizing text with
  | nil => rfl
  | cons letter letters ih =>
    cases text with
    | nil => rfl
    | cons c rest =>
      by_cases hletter : foldsTo letter c = true <;> simp [stripFolded?, hletter, ih]

end VisualNovel.Text
