/-
# What is wrong with a pattern

A pattern is refused for one reason, which is found at a span of it. If it is a repetition of what
must not be repeated, the earlier span is told as well. A pattern that is well formed may still be
too large.
-/

import VisualNovel.Pattern.Place

namespace VisualNovel.Pattern

/-- What is wrong with a span of a pattern. -/
inductive Fault
  | groupUnclosed
  | groupUnopened
  | nameTwice
  | nameEmpty
  | nameCharacter
  | nameCut
  | lookAround
  | backreference
  | flagTwice
  | flagUnknown
  | flagCut
  | negationTwice
  | negationDangling
  | nothingToRepeat
  | countUnclosed
  | countEmpty
  | countTooLarge
  | countOrder
  | escapeCut
  | escapeUnknown
  | hexEmpty
  | hexDigit
  | hexNoCharacter
  | boundaryCut
  | boundaryUnclosed
  | boundaryUnknown
  | setUnclosed
  | setEscape
  | setBound
  | setOrder
  | propertyInvalid
  | propertyUnknown
  | propertyValueUnknown
  | unicodeOff
  /-- Bytes that are not the text of any characters would match. -/
  | noText
  | nestedTooDeep
  deriving DecidableEq, Repr

/-- How deep the parts of a pattern are nested at most. -/
def deepest : Nat := 250

/-- The fault in words. -/
def Fault.message : Fault → String
  | groupUnclosed => "unclosed group"
  | groupUnopened => "unopened group"
  | nameTwice => "duplicate capture group name"
  | nameEmpty => "empty capture group name"
  | nameCharacter => "invalid capture group character"
  | nameCut => "unclosed capture group name"
  | lookAround => "look-around, including look-ahead and look-behind, is not supported"
  | backreference => "backreferences are not supported"
  | flagTwice => "duplicate flag"
  | flagUnknown => "unrecognized flag"
  | flagCut => "expected flag but got end of regex"
  | negationTwice => "flag negation operator repeated"
  | negationDangling => "dangling flag negation operator"
  | nothingToRepeat => "repetition operator missing expression"
  | countUnclosed => "unclosed counted repetition"
  | countEmpty => "repetition quantifier expects a valid decimal"
  | countTooLarge => "decimal literal invalid"
  | countOrder => "invalid repetition count range, the start must be <= the end"
  | escapeCut => "incomplete escape sequence, reached end of pattern prematurely"
  | escapeUnknown => "unrecognized escape sequence"
  | hexEmpty => "hexadecimal literal empty"
  | hexDigit => "invalid hexadecimal digit"
  | hexNoCharacter => "hexadecimal literal is not a Unicode scalar value"
  | boundaryCut =>
    "found either the beginning of a special word boundary or a bounded repetition on a \\b with "
      ++ "an opening brace, but no closing brace"
  | boundaryUnclosed =>
    "special word boundary assertion is either unclosed or contains an invalid character"
  | boundaryUnknown =>
    "unrecognized special word boundary assertion, valid choices are: start, end, start-half or "
      ++ "end-half"
  | setUnclosed => "unclosed character class"
  | setEscape => "invalid escape sequence found in character class"
  | setBound => "invalid range boundary, must be a literal"
  | setOrder => "invalid character class range, the start must be <= the end"
  | propertyInvalid => "invalid Unicode character class"
  | propertyUnknown => "Unicode property not found"
  | propertyValueUnknown => "Unicode property value not found"
  | unicodeOff => "Unicode not allowed here"
  | noText => "pattern can match invalid UTF-8"
  | nestedTooDeep =>
    "exceed the maximum number of nested parentheses/brackets (" ++ toString deepest ++ ")"

/-- Why a pattern is refused. -/
inductive Refusal
  | malformed (fault : Fault) (span : Span) (earlier : Option Span)
  /-- What the pattern is compiled to has more bytes than the limit. -/
  | tooLarge (limit : Nat)
  deriving DecidableEq, Repr

/-- The report on a refused pattern. -/
def Refusal.report (pattern : List Char) : Refusal → String
  | malformed fault span earlier =>
    "regex parse error:\n" ++ shown pattern (earlier.toList ++ [span]) ++ "error: " ++ fault.message
  | tooLarge limit => "Compiled regex exceeds size limit of " ++ toString limit ++ " bytes."

end VisualNovel.Pattern
