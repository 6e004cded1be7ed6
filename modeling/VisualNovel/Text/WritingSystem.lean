/-
# Characters by their scripts

A character belongs to one script, but may be used in others as well. Where it is used in others,
the script that it belongs to does not count.
-/

import VisualNovel.Text.WritingSystem.Shared
import VisualNovel.Text.WritingSystem.Table

namespace VisualNovel.Text

/-- The characters that are used in a script, given by its short name: those that belong to it and
are listed for no other scripts, and those that are listed for it. -/
def usedIn (name : String) : RangeTable :=
  let own := CharClass.membersOf writingSystems name
  let listed := RangeTable.unions (sharedCharacters.map (·.members.get))
  let shared := sharedCharacters.filter (·.names.contains name)
  RangeTable.unions (own.difference listed :: shared.map (·.members.get))

/-- The scripts with the characters that are used in them. -/
def usedWritingSystems : List CharClass :=
  writingSystems.map fun system => ⟨system.names, usedIn (system.names.headD "")⟩

end VisualNovel.Text
