/-
# Characters as ranges of bytes

A character is written in UTF-8 by one to four bytes. A range of characters is divided into parts
whose texts are just those with a byte of one range in the first place, a byte of another in the
second and so on, as few as there can be.
-/

import VisualNovel.Text.RangeTable.Algebra

namespace VisualNovel.Text

/-- The bytes of the character with the code point. -/
def utf8Bytes (point : Nat) : List Nat :=
  let tail (bits : Nat) : Nat := 0x80 + point / bits % 64
  if point < 0x80 then [point]
  else if point < 0x800 then [0xC0 + point / 64, tail 1]
  else if point < 0x10000 then [0xE0 + point / 4096, tail 64, tail 1]
  else [0xF0 + point / 262144, tail 4096, tail 64, tail 1]

/-- The ranges of characters with as many bytes each, without the surrogates. -/
def lengthRanges : RangeTable :=
  [(0, 0x7F), (0x80, 0x7FF), (0x800, 0xD7FF), (0xE000, 0xFFFF), (0x10000, lastPoint)]

/-- How many characters share all but their last bytes, but the last two, or but the last three. -/
def blockSizes : List Nat := [64, 4096, 262144]

/-- The parts of a range of characters with as many bytes each: what there is of a block before
whole blocks, then larger blocks, and what there is of a block behind them. -/
def alignedParts : (sizes : List Nat) → (first last : Nat) → RangeTable
  | [], first, last => [(first, last)]
  | size :: larger, first, last =>
    if first / size = last / size then [(first, last)]
    else
      let front : RangeTable :=
        if first % size = 0 then [] else [(first, first / size * size + size - 1)]
      let first := if first % size = 0 then first else first / size * size + size
      if first / size = last / size || last % size = size - 1 then
        front ++ alignedParts larger first last
      else
        front ++ alignedParts larger first (last / size * size - 1)
          ++ [(last / size * size, last)]

/-- The ranges of bytes for each part of the ranges, in order. -/
def byteRanges (table : RangeTable) : List (List (Nat × Nat)) :=
  (table.intersection lengthRanges).flatMap fun (first, last) =>
    let parts := if last < 0x80 then [(first, last)] else alignedParts blockSizes first last
    parts.map fun (start, stop) => (utf8Bytes start).zip (utf8Bytes stop)

example : utf8Bytes 0x20AC = [0xE2, 0x82, 0xAC] := by decide

example : byteRanges [(0x61, 0x7A), (0x7FF, 0x1001)] =
    [[(0x61, 0x7A)], [(0xDF, 0xDF), (0xBF, 0xBF)], [(0xE0, 0xE0), (0xA0, 0xBF), (0x80, 0xBF)],
      [(0xE1, 0xE1), (0x80, 0x80), (0x80, 0x81)]] := by decide

end VisualNovel.Text
