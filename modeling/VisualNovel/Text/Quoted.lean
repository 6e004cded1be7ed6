/-
# Quoted texts in messages

A message shows a text between double quotes so that its extent is plain. The quote and the
backslash are escaped, five controls have a letter, and every other character that would not be
seen as itself, being invisible or combining with the character before it, is spelled as its code
point in braces. An apostrophe stays as it is.
-/

import VisualNovel.Text.Quoted.Table

namespace VisualNovel.Text

/-- The code point of `c` in lower-case hexadecimal, without leading zeros. -/
def hexCode (c : Char) : List Char :=
  Nat.toDigits 16 c.toNat

/-- One character as it stands between the quotes. -/
def quotedChar (c : Char) : List Char :=
  match c with
  | '\x00' => ['\\', '0']
  | '\t' => ['\\', 't']
  | '\r' => ['\\', 'r']
  | '\n' => ['\\', 'n']
  | '"' => ['\\', '"']
  | '\\' => ['\\', '\\']
  | c =>
    if graphemeExtendRanges.contains c || unprintableRanges.contains c then
      ['\\', 'u', '\x7b'] ++ hexCode c ++ ['\x7d']
    else [c]

/-- The text between double quotes. -/
def quoted (text : List Char) : List Char :=
  '"' :: text.flatMap quotedChar ++ ['"']

/-- `quoted` for strings. -/
def quotedString (text : String) : String :=
  String.ofList (quoted text.toList)

example : quoted "a\"b\n'\u0301".toList = "\"a\\\"b\\n'\\u\x7b301\x7d\"".toList := by
  decide +kernel

example : quoted "ﾊﾞ\u3164".toList = "\"ﾊﾞ\\u\x7b3164\x7d\"".toList := by decide +kernel

end VisualNovel.Text
