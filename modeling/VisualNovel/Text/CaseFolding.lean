/-
# Letter case

Two characters are the same but for letter case when folding sends them to the same character. A
table is closed under letter case when it has, with a character, all that are the same as it.
-/

import VisualNovel.Text.CaseFolding.Table
import VisualNovel.Text.CharClass

namespace VisualNovel.Text

/-- The foldings of one run: each code point of its source with the one that it is sent to. -/
def runFoldings (run : List Char) : List (Nat × Nat) :=
  match run.splitOn '>' with
  | [source, image] =>
    let sources := writtenRanges source
    let start := (sources.headD (0, 0)).1
    let first := hexNumber image
    sources.flatMap fun range =>
      (List.range' range.1 (range.2 + 1 - range.1)).map fun point =>
        (point, first + (point - start))
  | _ => []

/-- All code points that are folded, with those that they are sent to. -/
def foldings : Thunk (List (Nat × Nat)) := (words foldingRuns).flatMap runFoldings

/-- The foldings of the ASCII letters among each other. -/
def asciiFoldings : List (Nat × Nat) := runFoldings "41-5A>61".toList

/-- The table with all characters that are the same as one of its own when folded so. -/
def closedUnder (folding : List (Nat × Nat)) (table : RangeTable) : RangeTable :=
  let images := RangeTable.normalized (folding.filterMap fun (point, image) =>
    if table.spans point || table.spans image then some (image, image) else none)
  let sources := folding.filterMap fun (point, image) =>
    if images.spans image then some (point, point) else none
  RangeTable.unions [table, images, sources]

/-- The table closed under letter case, in all scripts or in ASCII alone. -/
def closedUnderCase (unicode : Bool) (table : RangeTable) : RangeTable :=
  closedUnder (if unicode then foldings.get else asciiFoldings) table

example : runFoldings "100-104/2>101".toList =
    [(0x100, 0x101), (0x102, 0x103), (0x104, 0x105)] := by decide +kernel

end VisualNovel.Text
