/-
# Patterns

A pattern describes a set of texts. It is kept with the spans of its parts, because what is wrong
with a part is told by its place. What a pattern matches is not modelled: it is only decided whether
it is one.
-/

import VisualNovel.Pattern.Place

namespace VisualNovel

namespace Pattern

/-- What can be turned on and off for a part of a pattern. -/
inductive Flag
  | ignoresCase
  | multiLine
  | dotMatchesAll
  | swapsGreed
  | unicode
  | carriageReturns
  /-- Blanks and comments between the parts of a pattern are passed over. -/
  | verbose
  deriving DecidableEq, Repr

/-- The flag with the given letter. -/
def Flag.ofLetter? : Char → Option Flag
  | 'i' => some ignoresCase
  | 'm' => some multiLine
  | 's' => some dotMatchesAll
  | 'U' => some swapsGreed
  | 'u' => some unicode
  | 'R' => some carriageReturns
  | 'x' => some verbose
  | _ => none

/-- An item of a list of flags. -/
inductive FlagItem
  /-- The flags behind it are turned off. -/
  | negation
  | flag (flag : Flag)
  deriving DecidableEq, Repr

/-- Flags in the order in which they are written. -/
abbrev Flags := List FlagItem

/-- Whether the flags turn a flag on or off, if they do either. -/
def Flags.state? (flags : Flags) (flag : Flag) : Option Bool :=
  if flags.contains (.flag flag) then
    some !(flags.takeWhile (· ≠ .flag flag)).contains .negation
  else none

/-- A character property by its name, and perhaps by its value. -/
inductive PropertyName
  | plain (name : String)
  | valued (name value : String)
  deriving DecidableEq, Repr

/-- A class of characters that has an escape of its own. -/
inductive Shorthand
  | digits
  | blanks
  | wordChars
  deriving DecidableEq, Repr

/-- The class with the given letter. -/
def Shorthand.ofLetter? : Char → Option Shorthand
  | 'd' => some digits
  | 's' => some blanks
  | 'w' => some wordChars
  | _ => none

/-- A condition on a place. -/
inductive Condition
  | lineStart
  | lineEnd
  | textStart
  | textEnd
  | wordBound
  | noWordBound
  | wordStart
  | wordEnd
  /-- No character of a word is before the place. -/
  | wordStartHalf
  /-- No character of a word is behind the place. -/
  | wordEndHalf
  deriving DecidableEq, Repr

/-- A class of ASCII characters with a name of its own within sets. -/
inductive AsciiClass
  | alnum
  | alpha
  | ascii
  | blank
  | cntrl
  | digit
  | graph
  | lower
  | print
  | punct
  | space
  | upper
  | word
  | xdigit
  deriving DecidableEq, Repr

/-- How two sets are combined. -/
inductive SetOperator
  | intersection
  | difference
  | symmetricDifference
  deriving DecidableEq, Repr

/-- What a sign or an escape stands for. -/
inductive Atom
  /-- A character. A byte is one that is written by two hexadecimal digits. -/
  | literal (char : Char) (isByte : Bool)
  | anyChar
  | assertion (condition : Condition)
  /-- The characters of a class, or all but those. -/
  | shorthand (chars : Shorthand) (negated : Bool)
  | property (negated : Bool) (name : PropertyName)
  deriving DecidableEq, Repr

/-- A sign or an escape at its place. -/
structure Sign where
  span : Span
  atom : Atom
  deriving DecidableEq, Repr

/-- A set of characters, as it is written between brackets. -/
inductive CharSet
  | empty (place : Place)
  | sign (sign : Sign)
  | range (span : Span) (first last : Sign)
  /-- A set with a name in colons. -/
  | named (span : Span) (chars : AsciiClass) (negated : Bool)
  | bracketed (span : Span) (negated : Bool) (inner : CharSet)
  | union (span : Span) (items : List CharSet)
  | operation (span : Span) (operator : SetOperator) (left right : CharSet)

/-- Where a set is written. -/
def CharSet.span : CharSet → Span
  | empty place => .empty place
  | .sign found => found.span
  | range span _ _ => span
  | named span _ _ => span
  | bracketed span _ _ => span
  | union span _ => span
  | operation span _ _ _ => span

end Pattern

/-- A pattern. -/
inductive Pattern
  | empty (place : Pattern.Place)
  | flags (span : Pattern.Span) (flags : Pattern.Flags)
  | sign (sign : Pattern.Sign)
  | charSet (set : Pattern.CharSet)
  /-- A part so many times. Without a greatest number, it may be repeated any number of times. A
  lazy repetition prefers fewer times. -/
  | repetition (span : Pattern.Span) (least : Nat) (most : Option Nat) (isLazy : Bool)
      (part : Pattern)
  /-- A group, and whether what it matches is kept. -/
  | group (span : Pattern.Span) (captures : Bool) (flags : Pattern.Flags) (inner : Pattern)
  | alternation (span : Pattern.Span) (branches : List Pattern)
  | sequence (span : Pattern.Span) (parts : List Pattern)

namespace Pattern

/-- Where a pattern is written. -/
def span : Pattern → Span
  | empty place => .empty place
  | flags span _ => span
  | .sign found => found.span
  | .charSet found => found.span
  | repetition span _ _ _ _ => span
  | group span _ _ _ => span
  | alternation span _ => span
  | sequence span _ => span

end Pattern

end VisualNovel
