/-
# Classes of characters by name

The Unicode character database gives names to classes of characters. A class is known by several
names, and names are compared loosely. Its table is written as text, for it may be long: code points
in hexadecimal with blanks between them, where a hyphen joins the ends of a range, and `/2` behind a
range takes every second code point of it.
-/

import VisualNovel.Numeral
import VisualNovel.Text.RangeTable.Algebra

namespace VisualNovel.Text

/-- A name without what does not count in it: letter case, blanks, underscores, hyphens, an *is* in
front, and all characters that are not ASCII. The short name *isc* keeps its *is*, because a
category has the name *c*. -/
def looseName (name : String) : List Char :=
  let kept (chars : List Char) : List Char :=
    (chars.filter fun c => c.toNat < 0x80 && c != ' ' && c != '_' && c != '-').map Char.toLower
  match name.toList with
  | first :: second :: rest =>
    if first.toLower = 'i' && second.toLower = 's' then
      if kept rest = ['c'] then ['i', 's', 'c'] else kept rest
    else kept (first :: second :: rest)
  | chars => kept chars

/-- Whether a name is one of the given ones. -/
def isOneOf (names : List String) (name : String) : Bool :=
  names.any (looseName · == looseName name)

/-- The number with the hexadecimal digits. -/
def hexNumber (digits : List Char) : Nat :=
  digits.foldl (fun number c => number * 16 + (Numeral.hexValue? c).getD 0) 0

/-- The ranges of one word of a written table. -/
def writtenRanges (word : List Char) : RangeTable :=
  match word.splitOn '-' with
  | [first, last] =>
    match last.splitOn '/' with
    | [last, _] =>
      (List.range ((hexNumber last - hexNumber first) / 2 + 1)).flatMap fun i =>
        RangeTable.single (hexNumber first + 2 * i)
    | _ => [(hexNumber first, hexNumber last)]
  | _ => RangeTable.single (hexNumber word)

/-- The words of the lines. -/
def words (lines : List String) : List (List Char) := lines.flatMap (·.toList.splitOn ' ')

/-- The table with the given lines. -/
def written (lines : List String) : RangeTable := (words lines).flatMap writtenRanges

example : written ["41-43 5F", "100-104/2"] =
    [(0x41, 0x43), (0x5F, 0x5F), (0x100, 0x100), (0x102, 0x102), (0x104, 0x104)] := by
  decide +kernel

/-- A class of characters with its names. Its members are not worked out before they are asked
for. -/
structure CharClass where
  names : List String
  members : Thunk RangeTable

namespace CharClass

/-- The class with the name. -/
def find? (classes : List CharClass) (name : String) : Option CharClass :=
  classes.find? (isOneOf ·.names name)

/-- The members of the class with the name. -/
def membersOf (classes : List CharClass) (name : String) : RangeTable :=
  (find? classes name).elim [] (·.members.get)

/-- The members of all classes with the names. -/
def membersOfAll (classes : List CharClass) (names : List String) : RangeTable :=
  RangeTable.unions (names.map (membersOf classes))

end CharClass

example : looseName "is_Greek" = looseName "greek" ∧ looseName "Is_C" = looseName "ISC" := by
  decide +kernel

end VisualNovel.Text
