/-
# Inline markup

Dialogue text carries tags in square brackets. A bracket group is an opening bracket, a body without
brackets and line breaks, and a closing bracket; every other character stands for itself, an opening
bracket without a closing one included. A group whose body is no known tag is text like any other.

Two replacements come before the brackets are looked at: the mark of the player's name becomes the
name, and a number sign with an `n` becomes a line break.
-/

import VisualNovel.Numeral
import VisualNovel.Text.Folding
import VisualNovel.Text.Lowercase

namespace VisualNovel.Dialogue

open Text

/-- The mark of the player's name. -/
def nameMark : List Char := "[username]".toList

theorem nameMark_ne_nil : nameMark ≠ [] := by decide

/-- The text with every mark of the player's name, in any letter case, replaced by the name. -/
def insertName (player : List Char) (text : List Char) : List Char :=
  match text with
  | [] => []
  | c :: rest =>
    match _ : stripFolded? nameMark (c :: rest) with
    | some after => player ++ insertName player after
    | none => c :: insertName player rest
termination_by text.length
decreasing_by
  · exact length_lt_of_stripFolded? nameMark_ne_nil ‹_›
  · simp

/-- The text with every `#n` replaced by a line break. -/
def breakLines : List Char → List Char
  | [] => []
  | '#' :: 'n' :: rest => '\n' :: breakLines rest
  | c :: rest => c :: breakLines rest

/-- A character of the text, or a bracket group by its body. -/
inductive Piece
  | char (c : Char)
  | group (body : List Char)
  deriving DecidableEq, Repr

/-- An opening bracket and what was read behind it, latest first, as plain characters. -/
def unclosed (body : List Char) : List Piece :=
  .char '[' :: body.reverse.map .char

/-- The pieces of the text. When a bracket is open, `pending` holds what was read behind it, latest
first. -/
def piecesFrom (pending : Option (List Char)) : List Char → List Piece
  | [] => (pending.map unclosed).getD []
  | c :: rest =>
    match pending with
    | none => if c = '[' then piecesFrom (some []) rest else .char c :: piecesFrom none rest
    | some body =>
      if c = '[' then unclosed body ++ piecesFrom (some []) rest
      else if c = ']' then .group body.reverse :: piecesFrom none rest
      else if c = '\n' then unclosed body ++ .char c :: piecesFrom none rest
      else piecesFrom (some (c :: body)) rest

/-- The pieces of the text. -/
def pieces (text : List Char) : List Piece := piecesFrom none text

/-- What a bracket group means. -/
inductive Tag
  /-- A pause, by the digits of its length. -/
  | pause (digits : List Char)
  | ruby (reading : List Char)
  | endRuby
  /-- A colour, by its six hexadecimal digits. -/
  | color (digits : List Char)
  | endColor
  | bold
  | endBold
  | italic
  | endItalic
  deriving DecidableEq, Repr

/-- Whether `c` is a hexadecimal digit. -/
def isHexDigit (c : Char) : Bool :=
  isAsciiDigit c || ('a' ≤ c && c ≤ 'f') || ('A' ≤ c && c ≤ 'F')

/-- The digits of a pause, which may be those of any script. -/
def pauseDigits? (body : List Char) : Option (List Char) :=
  match stripFolded? "wa:".toList body with
  | some digits => if !digits.isEmpty && digits.all isDecimalDigit then some digits else none
  | none => none

/-- The tag with the given body, in any letter case. -/
def Tag.ofBody? (body : List Char) : Option Tag :=
  match pauseDigits? body with
  | some digits => some (.pause digits)
  | none =>
    let lower := lowercaseAscii body
    if lower = "/ruby".toList then some .endRuby
    else if lower = "-".toList then some .endColor
    else if lower = "b".toList then some .bold
    else if lower = "/b".toList then some .endBold
    else if lower = "i".toList then some .italic
    else if lower = "/i".toList then some .endItalic
    else if "ruby=".toList.isPrefixOf lower then some (.ruby (body.drop 5))
    else if body.length = 6 && body.all isHexDigit then some (.color body)
    else none

end VisualNovel.Dialogue
