/-
# What a run has printed

A part of a run goes on from what was printed before it. It either prints nothing, and then it may
fail, or it prints lines, and then it cannot. A run is put together of such parts so that whatever
can fail comes first; then nothing is printed by a run that fails, although a failure takes nothing
back.
-/

import VisualNovel.Command.Run

namespace VisualNovel.Command

variable {α β : Type} {result : Except CommandError α} {next : α → Printing β}
  {printed text : String}

section Finish

variable {tree : FileTree} {notices : String} {part : Printing Unit}

/-- The notices are written to the error output and are looked at nowhere. -/
theorem exists_finish_eq (notices other : String) :
    ∃ errors, finish tree other part = { finish tree notices part with errors } := by
  unfold finish
  rcases perform part "" with ⟨error | done, output⟩ <;> exact ⟨_, rfl⟩

end Finish

end VisualNovel.Command
