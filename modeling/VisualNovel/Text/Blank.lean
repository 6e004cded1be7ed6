/-
# Blank characters and trimming

Blank means white space in the sense of the Unicode property *White_Space*: the ASCII controls from
tab to carriage return, the space, and the wide and narrow spaces of other scripts. A zero-width
space is not blank. Trimming removes the blank ends of a text and nothing inside it.
-/

import VisualNovel.Text.RangeTable

namespace VisualNovel.Text

/-- The ranges of the property *White_Space*. -/
def blankRanges : RangeTable :=
  [(0x0009, 0x000D), (0x0020, 0x0020), (0x0085, 0x0085), (0x00A0, 0x00A0), (0x1680, 0x1680),
   (0x2000, 0x200A), (0x2028, 0x2029), (0x202F, 0x202F), (0x205F, 0x205F), (0x3000, 0x3000)]

/-- Whether `c` is white space. -/
def isBlank (c : Char) : Bool :=
  blankRanges.contains c

/-- The text from its first visible character on. -/
def trimStart (text : List Char) : List Char :=
  text.dropWhile isBlank

/-- The text up to its last visible character. -/
def trimEnd (text : List Char) : List Char :=
  (text.reverse.dropWhile isBlank).reverse

/-- The text without its blank ends. -/
def trim (text : List Char) : List Char :=
  trimEnd (trimStart text)

/-- Whether nothing is left of the text once it is trimmed. -/
def isBlankText (text : List Char) : Bool :=
  text.all isBlank

/-- The trimmed text, unless nothing is left of it. -/
def visible? (text : List Char) : Option (List Char) :=
  let inner := trim text
  if inner.isEmpty then none else some inner

@[simp] theorem trim_nil : trim [] = [] := rfl

theorem trimStart_suffix (text : List Char) : trimStart text <:+ text :=
  List.dropWhile_suffix _

theorem trimEnd_prefix (text : List Char) : trimEnd text <+: text := by
  have h : text.reverse.dropWhile isBlank <:+ text.reverse := List.dropWhile_suffix _
  simpa [trimEnd] using List.reverse_prefix.mpr h

example : isBlank '\t' ∧ isBlank '\u3000' ∧ ¬ isBlank '\u200b' := by decide

example : trim " a b\u3000".toList = "a b".toList := by decide

end VisualNovel.Text
