/-
# Sets of characters as range tables

Range tables are combined like the sets that they stand for. All tables here are in order, and what
comes out is in order again. Ranges are those of code points, but they end at characters: behind the
last character below the surrogates comes the first one above them.
-/

import VisualNovel.Text.RangeTable

namespace VisualNovel.Text

/-- The greatest code point. -/
def lastPoint : Nat := 0x10FFFF

/-- The code point of the character behind the one with the given code point. -/
def pointAfter (point : Nat) : Nat := if point = 0xD7FF then 0xE000 else point + 1

/-- The code point of the character before the one with the given code point. -/
def pointBefore (point : Nat) : Nat := if point = 0xE000 then 0xD7FF else point - 1

namespace RangeTable

/-- Whether one of the ranges spans the code point. -/
def spans (table : RangeTable) (point : Nat) : Bool :=
  table.any fun (first, last) => first ≤ point && point ≤ last

/-- The table of one code point. -/
def single (point : Nat) : RangeTable := [(point, point)]

/-- A range and those behind it, where ranges that overlap or touch become one. -/
def joined (range : Nat × Nat) : RangeTable → RangeTable
  | [] => [range]
  | next :: rest =>
    if next.1 ≤ range.2 + 1 then joined (range.1, max range.2 next.2) rest
    else range :: joined next rest

/-- The ranges in order, none of which overlaps or touches the next one. -/
def normalized (table : RangeTable) : RangeTable :=
  match table.mergeSort fun range next => range.1 ≤ next.1 with
  | [] => []
  | range :: rest => joined range rest

/-- The characters of either table. -/
def union (left right : RangeTable) : RangeTable := normalized (left ++ right)

/-- The characters of any of the tables. -/
def unions (tables : List RangeTable) : RangeTable := normalized tables.flatten

/-- The characters of both tables. -/
def intersection (left right : RangeTable) : RangeTable :=
  left.flatMap fun (first, last) => right.filterMap fun (start, stop) =>
    if max first start ≤ min last stop then some (max first start, min last stop) else none

/-- The characters of a range that are not in the table. -/
def without (first last : Nat) : RangeTable → RangeTable
  | [] => [(first, last)]
  | (start, stop) :: rest =>
    if stop < first then without first last rest
    else if last < start then [(first, last)]
    else
      (if first < start then [(first, pointBefore start)] else []) ++
        if stop < last then without (pointAfter stop) last rest else []

/-- The characters of the first table that are not in the second one. -/
def difference (left right : RangeTable) : RangeTable :=
  left.flatMap fun (first, last) => without first last right

/-- The characters of just one of the tables. -/
def symmetricDifference (left right : RangeTable) : RangeTable :=
  difference (union left right) (intersection left right)

/-- The ranges between those of a table, and behind the last one, when one that ends at the code
point comes before them. A range that ends right below the surrogates and one that starts right
above them have the range between them that has the two characters at its ends. -/
def gaps (last : Nat) : RangeTable → RangeTable
  | [] => if last < lastPoint then [(pointAfter last, lastPoint)] else []
  | (start, stop) :: rest =>
    (min (pointAfter last) (pointBefore start), max (pointAfter last) (pointBefore start)) ::
      gaps stop rest

/-- The characters that are not in the table. -/
def complement : RangeTable → RangeTable
  | [] => [(0, lastPoint)]
  | (start, stop) :: rest =>
    (if 0 < start then [(0, pointBefore start)] else []) ++ gaps stop rest

example : joined (0x30, 0x39) [(0x3A, 0x3A), (0x61, 0x7A)] = [(0x30, 0x3A), (0x61, 0x7A)] := by
  decide

example : complement [(0, 0x40), (0xD800, 0xDFFF)] = [(0x41, 0xD7FF), (0xE000, lastPoint)] := by
  decide

example : difference [(1, 9)] [(0, 2), (5, 5)] = [(3, 4), (6, 9)] := by decide

end RangeTable

end VisualNovel.Text
