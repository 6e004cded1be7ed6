/-
# The form of a pattern

A pattern is resolved from its start to its end, because flags in it hold for what is behind them.
-/

import VisualNovel.Pattern.Form
import VisualNovel.Pattern.Members

namespace VisualNovel.Pattern

open Text

namespace Form

/-- One of the characters in the table. -/
def ofMembers (mode : Mode) (members : RangeTable) : Form := ofClass (!mode.unicode) members

/-- A condition. Unless there are several lines, those at the ends of a line are about the text. -/
def ofCondition (mode : Mode) : Condition → Form
  | .lineStart =>
    if mode.multiLine then condition .lineStart mode.carriageReturns else condition .textStart false
  | .lineEnd =>
    if mode.multiLine then condition .lineEnd mode.carriageReturns else condition .textEnd false
  | .textStart => condition .textStart false
  | .textEnd => condition .textEnd false
  | found => condition found mode.unicode

/-- The form of an atom. A character stands for itself in every letter case where that is
ignored. -/
def ofAtom (mode : Mode) : Atom → Form
  | .assertion found => ofCondition mode found
  | .literal c isByte => ofMembers mode (mode.closed ((Atom.literal c isByte).members mode))
  | atom => ofMembers mode (atom.members mode)

end Form

mutual

/-- The form of a part of a pattern, and the mode behind it. -/
def formOf (mode : Mode) : Pattern → Form × Mode
  | .empty _ => (.empty, mode)
  | .flags _ found => (.empty, mode.changed found)
  | .sign found => (.ofAtom mode found.atom, mode)
  | .charSet set => (.ofMembers mode (set.members mode), mode)
  | .repetition _ least most isLazy part =>
    let (form, mode) := formOf mode part
    (.repeated least most (isLazy != mode.swapsGreed) form, mode)
  | .group _ captures found inner =>
    let form := (formOf (mode.changed found) inner).1
    (if captures then .capture form else form, mode)
  | .alternation _ branches =>
    let (forms, mode) := formsOf mode branches
    (.alternatives forms, mode)
  | .sequence _ parts =>
    let (forms, mode) := formsOf mode parts
    (.inSequence forms, mode)

/-- The forms of the parts, and the mode behind them. -/
def formsOf (mode : Mode) : List Pattern → List Form × Mode
  | [] => ([], mode)
  | part :: rest =>
    let (form, mode) := formOf mode part
    let (forms, mode) := formsOf mode rest
    (form :: forms, mode)

end

/-- The form of a whole pattern. -/
def form (pattern : Pattern) : Form := (formOf {} pattern).1

end VisualNovel.Pattern
