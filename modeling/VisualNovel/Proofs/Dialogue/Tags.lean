/-
# How tags are written

A tag is written as a bracket group, and its body tells which one it is. The rules for bodies stand
here side by side, without an order in which they would be tried: no body is that of two tags. What
reads a body tries them one after the other, and finds the one rule that applies.
-/

import VisualNovel.Dialogue.Markup
import VisualNovel.Proofs.Text.Keyword
import VisualNovel.Proofs.Text.Marks

namespace VisualNovel.Dialogue

open Text

/-- The tags whose body is a keyword alone. -/
def Tag.keywords : List (String × Tag) :=
  [("/ruby", .endRuby), ("-", .endColor), ("b", .bold), ("/b", .endBold), ("i", .italic),
    ("/i", .endItalic)]

/-- The tag has the body. Keywords are written in any letter case. -/
inductive Tag.HasBody : Tag → List Char → Prop
  | keyword {word : String} {tag : Tag} {mark : List Char} (hword : (word, tag) ∈ keywords)
      (hmark : Spells word mark) : HasBody tag mark
  | pause {mark digits : List Char} (hmark : Spells "wa:" mark) (hdigits : digits ≠ [])
      (hall : ∀ c ∈ digits, isDecimalDigit c = true) : HasBody (.pause digits) (mark ++ digits)
  | ruby {mark : List Char} (reading : List Char) (hmark : Spells "ruby=" mark) :
      HasBody (.ruby reading) (mark ++ reading)
  | color {digits : List Char} (hlength : digits.length = 6)
      (hall : ∀ c ∈ digits, isHexDigit c = true) : HasBody (.color digits) digits

/-- A pause is told by its keyword alone. -/
theorem Tag.HasBody.of_pause {digits body : List Char} (hbody : Tag.HasBody (.pause digits) body) :
    (∃ mark, Spells "wa:" mark ∧ body = mark ++ digits) ∧ digits ≠ [] ∧
      ∀ c ∈ digits, isDecimalDigit c = true := by
  cases hbody with
  | keyword hword => simp [Tag.keywords] at hword
  | @pause mark _ hmark hdigits hall => exact ⟨⟨mark, hmark, rfl⟩, hdigits, hall⟩

theorem pauseDigits?_eq_some_iff {body digits : List Char} :
    pauseDigits? body = some digits ↔ Tag.HasBody (.pause digits) body := by
  have hascii : IsAscii "wa:".toList := by decide
  have hstrip {rest : List Char} : stripFolded? "wa:".toList body = some rest ↔
      ∃ mark, Spells "wa:" mark ∧ body = mark ++ rest := by
    rw [stripFolded?_eq_some_iff hascii]
    simp only [spells_iff_map_folded hascii (by decide)]
  unfold pauseDigits?
  constructor
  · intro hread
    split at hread
    · next rest hrest =>
      split at hread
      · next hdigits =>
        cases hread
        obtain ⟨mark, hmark, rfl⟩ := hstrip.mp hrest
        simp only [Bool.and_eq_true, Bool.not_eq_true', List.isEmpty_eq_false_iff,
          List.all_eq_true] at hdigits
        exact .pause hmark hdigits.1 hdigits.2
      · cases hread
    · cases hread
  · intro hbody
    obtain ⟨hmark, hdigits, hall⟩ := hbody.of_pause
    rw [hstrip.mpr hmark]
    have hnonempty : digits.isEmpty = false := by simpa using hdigits
    have hevery : digits.all isDecimalDigit = true := by simpa using hall
    simp [hnonempty, hevery]

/-- No letter but those from `a` to `f` is a hexadecimal digit. -/
theorem toLower_of_isHexDigit {c : Char} (hdigit : isHexDigit c = true) :
    c.toLower ≠ 'w' ∧ c.toLower ≠ 'r' := by
  have hall : ∀ code < 128, isHexDigit (Char.ofNat code) = true →
      (Char.ofNat code).toLower ≠ 'w' ∧ (Char.ofNat code).toLower ≠ 'r' := by decide +kernel
  have hascii : c.toNat < 128 := by
    simp only [isHexDigit, isAsciiDigit, Bool.or_eq_true, Bool.and_eq_true, decide_eq_true_eq,
      Char.le_def, UInt32.le_iff_toNat_le] at hdigit
    change c.val.toNat < 128
    have hnine : '9'.val.toNat = 57 := rfl
    have hsmall : 'f'.val.toNat = 102 := rfl
    have hcapital : 'F'.val.toNat = 70 := rfl
    omega
  have hc := hall c.toNat hascii
  rw [Char.ofNat_toNat] at hc
  exact hc hdigit

theorem lowercaseAscii_append {word : String} {mark : List Char} (hmark : Spells word mark)
    (rest : List Char) : lowercaseAscii (mark ++ rest) = word.toList ++ lowercaseAscii rest := by
  rw [lowercaseAscii, List.map_append, hmark]
  rfl

theorem drop_of_spells_ruby {mark : List Char} (hmark : Spells "ruby=" mark) (reading : List Char) :
    (mark ++ reading).drop 5 = reading := List.drop_left' hmark.length_eq

/-- Only the body of a pause begins with a `w`. -/
theorem pauseDigits?_eq_none {body : List Char} (hother : (lowercaseAscii body).head? ≠ some 'w') :
    pauseDigits? body = none := by
  rw [Option.eq_none_iff_forall_ne_some]
  intro digits hread
  obtain ⟨⟨mark, hmark, rfl⟩, _⟩ := (pauseDigits?_eq_some_iff.mp hread).of_pause
  exact hother (by rw [lowercaseAscii_append hmark]; rfl)

namespace Tag

/-- A body is read as the tag that has it. -/
theorem HasBody.ofBody?_eq {tag : Tag} {body : List Char} (hbody : tag.HasBody body) :
    ofBody? body = some tag := by
  unfold Tag.ofBody?
  cases hbody with
  | @keyword word _ _ hword hmark =>
    have hlower : lowercaseAscii body = word.toList := hmark
    have hfirst : ∀ pair ∈ keywords, pair.1.toList.head? ≠ some 'w' := by decide
    rw [pauseDigits?_eq_none (by rw [hlower]; exact hfirst _ hword), hlower]
    simp only [keywords, List.mem_cons, List.not_mem_nil, or_false, Prod.mk.injEq] at hword
    rcases hword with
      ⟨rfl, rfl⟩ | ⟨rfl, rfl⟩ | ⟨rfl, rfl⟩ | ⟨rfl, rfl⟩ | ⟨rfl, rfl⟩ | ⟨rfl, rfl⟩ <;> rfl
  | pause hmark hdigits hall =>
    rw [pauseDigits?_eq_some_iff.mpr (.pause hmark hdigits hall)]
  | @ruby mark reading hmark =>
    have hlower := lowercaseAscii_append hmark reading
    have hfirst : some 'r' ≠ some 'w' := by decide
    rw [pauseDigits?_eq_none (by rw [hlower]; exact hfirst), hlower]
    simp [drop_of_spells_ruby hmark]
  | color hlength hall =>
    have hlower : (lowercaseAscii body).length = 6 := by
      rw [lowercaseAscii, List.length_map, hlength]
    obtain ⟨c, rest, rfl⟩ := List.exists_cons_of_length_eq_add_one hlength
    obtain ⟨hpause, hruby⟩ := toLower_of_isHexDigit (hall c List.mem_cons_self)
    have hevery : (c :: rest).all isHexDigit = true := by simpa using hall
    rw [pauseDigits?_eq_none (by simpa [lowercaseAscii] using hpause)]
    have hkeyword {word : String} (hother : word.toList.length ≠ 6) :
        lowercaseAscii (c :: rest) ≠ word.toList := by
      intro hsame
      rw [hsame] at hlower
      exact hother hlower
    have hprefix : "ruby=".toList.isPrefixOf (lowercaseAscii (c :: rest)) = false := by
      simp [lowercaseAscii, List.isPrefixOf, hruby.symm]
    simp only [hlength, hevery, hprefix]
    rw [if_neg (hkeyword (by decide)), if_neg (hkeyword (by decide)), if_neg (hkeyword (by decide)),
      if_neg (hkeyword (by decide)), if_neg (hkeyword (by decide)), if_neg (hkeyword (by decide))]
    rfl

theorem ofBody?_eq_some_iff {tag : Tag} {body : List Char} :
    ofBody? body = some tag ↔ tag.HasBody body := by
  refine ⟨fun hread => ?_, HasBody.ofBody?_eq⟩
  unfold Tag.ofBody? at hread
  split at hread
  · next digits hpause =>
    cases hread
    exact pauseDigits?_eq_some_iff.mp hpause
  · dsimp only at hread
    split_ifs at hread with hendRuby hendColor hbold hendBold hitalic hendItalic hruby hcolor <;>
      cases hread
    · exact .keyword (by simp [keywords]) hendRuby
    · exact .keyword (by simp [keywords]) hendColor
    · exact .keyword (by simp [keywords]) hbold
    · exact .keyword (by simp [keywords]) hendBold
    · exact .keyword (by simp [keywords]) hitalic
    · exact .keyword (by simp [keywords]) hendItalic
    · obtain ⟨rest, hrest⟩ := List.isPrefixOf_iff_prefix.mp hruby
      obtain ⟨mark, reading, rfl, hmark, _⟩ := List.map_eq_append_iff.mp hrest.symm
      have hmark : Spells "ruby=" mark := hmark
      rw [drop_of_spells_ruby hmark]
      exact .ruby reading hmark
    · simp only [Bool.and_eq_true, decide_eq_true_eq, List.all_eq_true] at hcolor
      exact .color hcolor.1 hcolor.2

end Tag
end VisualNovel.Dialogue
