/-
# What a script says of a slot

Of the twenty kinds of directives two address a slot: one calls a character into it, the other
animates whoever stands there. Read for one slot, a script is a sequence of calls and effects, and
what stands in the slot in the end is decided by the last call and by the effects of the row alone.

This module reads directives in that way and says how the readings of two scripts make up that of
their concatenation. It does not look at the stage.
-/

import VisualNovel.Staging.Story

namespace VisualNovel

open Script

namespace Script

namespace Slot

theorem position_injective : Function.Injective position := by
  unfold Function.Injective
  decide

@[simp]
theorem position_inj {first second : Slot} : first.position = second.position ↔ first = second :=
  position_injective.eq_iff

/-- The slots are numbered from one to five. -/
theorem position_mem_range (slot : Slot) : 1 ≤ slot.position ∧ slot.position ≤ 5 := by
  revert slot
  decide

end Slot

namespace Directive

/-- The slot that a directive addresses, if it addresses one. -/
def slot? : Directive → Option Slot
  | .characterEffect slot .. => some slot
  | .character slot .. => some slot
  | _ => none

/-- The name and the face with which a directive calls a character into the slot. -/
def callIn? (slot : Slot) : Directive → Option (List Char × List Char)
  | .character called name face _ => if called = slot then some (name, face) else none
  | _ => none

/-- The effect with which a directive animates whoever stands in the slot. -/
def effectIn? (slot : Slot) : Directive → Option CharacterEffect
  | .characterEffect animated kind name async =>
    if animated = slot then
      some
        { kind := Cast.effectKind (Parameter.text (some kind))
          name := String.ofList (Parameter.text (some name))
          async := async.visible?.isSome }
    else none
  | _ => none

/-- A directive that does not address the slot neither calls into it nor animates anybody there. -/
theorem callIn?_eq_none_of_slot?_ne {slot : Slot} {directive : Directive}
    (hother : directive.slot? ≠ some slot) : directive.callIn? slot = none := by
  cases directive with
  | character called => simp_all [slot?, callIn?]
  | _ => rfl

theorem effectIn?_eq_none_of_slot?_ne {slot : Slot} {directive : Directive}
    (hother : directive.slot? ≠ some slot) : directive.effectIn? slot = none := by
  cases directive with
  | characterEffect animated => simp_all [slot?, effectIn?]
  | _ => rfl

end Directive

/-- The last call into the slot. -/
def lastCall? (slot : Slot) (directives : List Directive) : Option (List Char × List Char) :=
  (directives.filterMap (·.callIn? slot)).getLast?

/-- The effects in the slot, in order. -/
def effectsIn (slot : Slot) (directives : List Directive) : List CharacterEffect :=
  directives.filterMap (·.effectIn? slot)

/-- A later call takes the place of an earlier one. -/
theorem lastCall?_append (slot : Slot) (earlier later : List Directive) :
    lastCall? slot (earlier ++ later) = (lastCall? slot later).or (lastCall? slot earlier) := by
  simp [lastCall?, List.getLast?_append]

@[simp]
theorem lastCall?_concat (slot : Slot) (done : List Directive) (directive : Directive) :
    lastCall? slot (done ++ [directive]) = (directive.callIn? slot).or (lastCall? slot done) := by
  rw [lastCall?_append]
  cases hcall : directive.callIn? slot <;> simp [lastCall?, hcall]

@[simp]
theorem effectsIn_concat (slot : Slot) (done : List Directive) (directive : Directive) :
    effectsIn slot (done ++ [directive]) =
      effectsIn slot done ++ (directive.effectIn? slot).toList := by
  cases heffect : directive.effectIn? slot <;> simp [effectsIn, heffect]

/-- Nobody was ever called into the slot exactly if no directive is a call into it. -/
theorem lastCall?_eq_none_iff {slot : Slot} {directives : List Directive} :
    lastCall? slot directives = none ↔
      ∀ directive ∈ directives, directive.callIn? slot = none := by
  simp [lastCall?]

end Script

/-- The directives of the rows, one row after the other. -/
def Story.script (rows : List Row) : List Directive :=
  rows.flatMap fun row => Script.directives row.script.toList

namespace Story

@[simp]
theorem script_concat (rows : List Row) (row : Row) :
    script (rows ++ [row]) = script rows ++ Script.directives row.script.toList := by
  simp [script]

end Story

end VisualNovel
