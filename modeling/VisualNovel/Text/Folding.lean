/-
# Keywords in any letter case

A keyword of the script language is written in any letter case. Two characters are the same letter
when simple case folding sends them to the same character, and for the ASCII letters this adds two
characters outside ASCII: the Kelvin sign folds to `k` and the long s folds to `s`. Keywords are
given in lower case.
-/

namespace VisualNovel.Text

/-- Whether simple case folding sends `c` to the lower-case ASCII character `letter`. -/
def foldsTo (letter c : Char) : Bool :=
  c.toLower == letter || (letter == 'k' && c == '\u212A') || (letter == 's' && c == '\u017F')

/-- What follows `keyword` at the start of `text`, letter case aside. -/
def stripFolded? : (keyword text : List Char) → Option (List Char)
  | [], rest => some rest
  | _ :: _, [] => none
  | letter :: letters, c :: rest =>
    if foldsTo letter c then stripFolded? letters rest else none

/-- What follows `keyword` is the text without as many characters as the keyword has. -/
theorem eq_drop_of_stripFolded? {keyword text rest : List Char}
    (found : stripFolded? keyword text = some rest) :
    keyword.length ≤ text.length ∧ rest = text.drop keyword.length := by
  induction keyword generalizing text with
  | nil => simp_all [stripFolded?]
  | cons letter letters ih =>
    cases text with
    | nil => simp [stripFolded?] at found
    | cons c cs =>
      rw [stripFolded?] at found
      split at found
      · obtain ⟨hlength, hrest⟩ := ih found
        exact ⟨by simpa using hlength, by simpa using hrest⟩
      · simp at found

theorem stripFolded?_suffix {keyword text rest : List Char}
    (found : stripFolded? keyword text = some rest) : rest <:+ text := by
  rw [(eq_drop_of_stripFolded? found).2]
  exact List.drop_suffix _ _

/-- Stripping a keyword that is not empty makes the text shorter. -/
theorem length_lt_of_stripFolded? {keyword text rest : List Char} (nonempty : keyword ≠ [])
    (found : stripFolded? keyword text = some rest) : rest.length < text.length := by
  obtain ⟨hlength, hrest⟩ := eq_drop_of_stripFolded? found
  have hkeyword : 0 < keyword.length := List.length_pos_iff.mpr nonempty
  rw [hrest, List.length_drop]
  omega

example : stripFolded? "#bgshake".toList "#BgſHa\u212Ae;x".toList = some ";x".toList := by decide

end VisualNovel.Text
