/-
# What is turned on in a pattern

Flags hold from where they are written to the end of the group around them. What they turn on tells
what a sign stands for.
-/

import VisualNovel.Pattern.Basic

namespace VisualNovel.Pattern

/-- What is turned on for a part of a pattern. -/
structure Mode where
  ignoresCase : Bool := false
  multiLine : Bool := false
  dotMatchesAll : Bool := false
  swapsGreed : Bool := false
  unicode : Bool := true
  carriageReturns : Bool := false
  deriving DecidableEq, Repr

/-- The mode behind flags. -/
def Mode.changed (mode : Mode) (found : Flags) : Mode where
  ignoresCase := (found.state? .ignoresCase).getD mode.ignoresCase
  multiLine := (found.state? .multiLine).getD mode.multiLine
  dotMatchesAll := (found.state? .dotMatchesAll).getD mode.dotMatchesAll
  swapsGreed := (found.state? .swapsGreed).getD mode.swapsGreed
  unicode := (found.state? .unicode).getD mode.unicode
  carriageReturns := (found.state? .carriageReturns).getD mode.carriageReturns

example : (Mode.changed {} [.flag .ignoresCase, .negation, .flag .unicode]).unicode = false := by
  decide

end VisualNovel.Pattern
