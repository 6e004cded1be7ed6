/-
# Runs of dialogue

A dialogue is shown as a sequence of runs. A run is text of one style, and may be preceded by a
pause.
-/

namespace VisualNovel

/-- How a run of text is shown. -/
inductive RunEffect
  /-- Small text above the run that tells how it is read. -/
  | ruby (reading : String)
  /-- A colour, written as a number sign and six hexadecimal digits. -/
  | color (code : String)
  | bold
  | italic
  | fontSize (size : UInt32)
  deriving DecidableEq, Repr

/-- A run of text in one style. -/
structure Run where
  content : String
  /-- How long playback waits before the run. -/
  pause : Option UInt32 := none
  effects : List RunEffect := []
  deriving DecidableEq, Repr

end VisualNovel
