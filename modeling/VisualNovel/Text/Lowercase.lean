/-
# Lower case

The full lower-case mapping of Unicode. Two rules go beyond mapping each character on its own: the
capital I with a dot above becomes an i followed by a combining dot, and a capital sigma at the end
of a word takes its final form. A word ends at a sigma when some cased letter stands before it and
none after it, characters that casing looks through aside.
-/

import VisualNovel.Text.Lowercase.Table

namespace VisualNovel.Text

/-- Whether the nearest character that casing does not look through has case. -/
def startsCased (text : List Char) : Bool :=
  match text.dropWhile caseIgnorableRanges.contains with
  | [] => false
  | c :: _ => casedRanges.contains c

/-- The lower-case form of one character, out of context. -/
def lowercaseChar (c : Char) : Char :=
  match lowercaseRuns.find? (·.covers c.toNat) with
  | some run => Char.ofNat (c.toNat + run.shift).toNat
  | none => c

/-- Lower case of `text`, where `before` is the part of the word already passed, nearest first. -/
def lowercaseFrom (before : List Char) : List Char → List Char
  | [] => []
  | c :: rest =>
    let image :=
      if c = 'İ' then ['i', '\u0307']
      else if c = 'Σ' then
        if startsCased before && !startsCased rest then ['ς'] else ['σ']
      else [lowercaseChar c]
    image ++ lowercaseFrom (c :: before) rest

/-- The text in lower case. -/
def lowercase (text : List Char) : List Char :=
  lowercaseFrom [] text

/-- The text with its ASCII letters in lower case and every other character as it is. -/
def lowercaseAscii (text : List Char) : List Char :=
  text.map Char.toLower

example : lowercase "ΣΑΣ Σ É".toList = "σας σ é".toList := by decide +kernel

end VisualNovel.Text
