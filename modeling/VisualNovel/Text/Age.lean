/-
# Characters by their age

A version of the Unicode character database has the characters that it added and those of all
versions before it.
-/

import VisualNovel.Text.Age.Table

namespace VisualNovel.Text

/-- The versions with all their characters, when the given ones come before them. -/
def withEarlier (earlier : List CharClass) : List CharClass → List CharClass
  | [] => []
  | version :: later =>
    let all := earlier ++ [version]
    ⟨version.names, RangeTable.unions (all.map (·.members.get))⟩ :: withEarlier all later

/-- The versions with all characters that were assigned in them. -/
def ages : List CharClass := withEarlier [] versions

end VisualNovel.Text
