/-
# The characters of sets

A sign in a pattern or a set in brackets stands for some characters. Where letter case is ignored, a
set in brackets is closed under it before it is negated, and so are the sets on either side of an
operator.
-/

import VisualNovel.Pattern.Mode
import VisualNovel.Pattern.Property
import VisualNovel.Text.CaseFolding

namespace VisualNovel.Pattern

open Text

/-- The members of a class of ASCII characters. -/
def AsciiClass.members : AsciiClass → RangeTable
  | alnum => [(0x30, 0x39), (0x41, 0x5A), (0x61, 0x7A)]
  | alpha => [(0x41, 0x5A), (0x61, 0x7A)]
  | ascii => [(0, 0x7F)]
  | blank => [(0x9, 0x9), (0x20, 0x20)]
  | cntrl => [(0, 0x1F), (0x7F, 0x7F)]
  | digit => [(0x30, 0x39)]
  | graph => [(0x21, 0x7E)]
  | lower => [(0x61, 0x7A)]
  | print => [(0x20, 0x7E)]
  | punct => [(0x21, 0x2F), (0x3A, 0x40), (0x5B, 0x60), (0x7B, 0x7E)]
  | space => [(0x9, 0xD), (0x20, 0x20)]
  | upper => [(0x41, 0x5A)]
  | word => [(0x30, 0x39), (0x41, 0x5A), (0x5F, 0x5F), (0x61, 0x7A)]
  | xdigit => [(0x30, 0x39), (0x41, 0x46), (0x61, 0x66)]

/-- The digits of all scripts. -/
def digitChars : Thunk RangeTable := inCategory "Nd"

/-- The blanks of all scripts. -/
def blankChars : Thunk RangeTable := withTrait "WSpace"

/-- The characters that words have in all scripts. -/
def wordChars : Thunk RangeTable :=
  RangeTable.unions
    [alphabeticChars, inCategories ["Mn", "Mc", "Me", "Nd", "Pc"], withTrait "Join_C"]

/-- The members of a class that has an escape of its own, in all scripts or in ASCII alone. -/
def Shorthand.members (unicode : Bool) : Shorthand → RangeTable
  | digits => if unicode then digitChars.get else AsciiClass.members .digit
  | blanks => if unicode then blankChars.get else AsciiClass.members .space
  | wordChars => if unicode then Pattern.wordChars.get else AsciiClass.members .word

/-- The table, or all but its characters. -/
def negatedIf (negated : Bool) (table : RangeTable) : RangeTable :=
  if negated then table.complement else table

namespace Mode

/-- The table closed under letter case where that is ignored. -/
def closed (mode : Mode) (table : RangeTable) : RangeTable :=
  if mode.ignoresCase then closedUnderCase mode.unicode table else table

/-- What the sign for any character stands for. -/
def anyChar (mode : Mode) : RangeTable :=
  if mode.dotMatchesAll then [(0, lastPoint)]
  else if mode.carriageReturns then RangeTable.complement [(0xA, 0xA), (0xD, 0xD)]
  else RangeTable.complement [(0xA, 0xA)]

end Mode

/-- The characters that an atom stands for, in the letter case in which a character is written. -/
def Atom.members (mode : Mode) : Atom → RangeTable
  | literal c _ => RangeTable.single c.toNat
  | anyChar => mode.anyChar
  | assertion _ => []
  | shorthand chars negated => negatedIf negated (chars.members mode.unicode)
  | property negated name => negatedIf negated (mode.closed name.members)

/-- The characters of a range, which has characters at both ends. -/
def rangeMembers : (first last : Atom) → RangeTable
  | .literal first _, .literal last _ => [(first.toNat, last.toNat)]
  | _, _ => []

/-- The characters of two combined sets. -/
def SetOperator.members (left right : RangeTable) : SetOperator → RangeTable
  | intersection => left.intersection right
  | difference => left.difference right
  | symmetricDifference => left.symmetricDifference right

mutual

/-- The characters of a set. -/
def CharSet.members (mode : Mode) : CharSet → RangeTable
  | .empty _ => []
  | .sign found => found.atom.members mode
  | .range _ first last => rangeMembers first.atom last.atom
  | .named _ chars negated => negatedIf negated (mode.closed chars.members)
  | .bracketed _ negated inner => negatedIf negated (mode.closed (inner.members mode))
  | .union _ items => RangeTable.unions (CharSet.membersOfAll mode items)
  | .operation _ operator left right =>
    operator.members (mode.closed (left.members mode)) (mode.closed (right.members mode))

/-- The characters of each of the sets. -/
def CharSet.membersOfAll (mode : Mode) : List CharSet → List RangeTable
  | [] => []
  | set :: rest => set.members mode :: CharSet.membersOfAll mode rest

end

end VisualNovel.Pattern
