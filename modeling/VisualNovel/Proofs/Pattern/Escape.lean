/-
# Escapes are read in place

Each part of the reader of escapes stays in the pattern. An escape is read in front of a backslash,
so that the place behind it is known from its start.
-/

import VisualNovel.Pattern.Escape
import VisualNovel.Proofs.Pattern.Steps

namespace VisualNovel.Pattern

open Scan

variable {written : List Char}

theorem staysIn_charOfNumber {span : Span} (hspan : span.IsIn written) (isByte : Bool)
    (number : Nat) : (charOfNumber span isByte number).StaysIn written fun _ => True := by
  unfold charOfNumber
  by_cases hvalid : number.isValidChar
  · rw [dif_pos hvalid]
    exact staysIn_pure trivial
  · rw [dif_neg hvalid]
    exact staysIn_refuse hspan

theorem staysIn_hexDigit (c : Char) : (hexDigit c).StaysIn written fun _ => True := by
  unfold hexDigit
  split
  · exact staysIn_pure trivial
  · exact staysIn_refuseSign

theorem staysIn_fixedHex (count before : Nat) :
    (fixedHex count before).StaysIn written fun _ => True := by
  induction count generalizing before with
  | zero => exact staysIn_pure trivial
  | succ count ih =>
    refine staysIn_next?.bind fun c? _ => ?_
    cases c? with
    | none => exact staysIn_refuseHere
    | some c => exact (staysIn_hexDigit c).bind fun _ _ => staysIn_skip.bind fun _ _ => ih _

theorem staysIn_bracedHex {brace : Place} (hbrace : brace.IsIn written) (fuel : Nat)
    (before : List Nat) : (bracedHex brace fuel before).StaysIn written fun _ => True := by
  induction fuel generalizing before with
  | zero => exact staysIn_refuseSince hbrace
  | succ fuel ih =>
    refine staysIn_skip.bind fun _ _ => staysIn_next?.bind fun c? _ => ?_
    split
    · exact staysIn_refuseSince hbrace
    · exact staysIn_pure trivial
    · exact (staysIn_hexDigit _).bind fun _ _ => ih _

theorem staysIn_hex (digits : Nat) : (hex digits).StaysIn written fun _ => True := by
  refine staysIn_skip.bind fun _ _ => staysIn_here.bind fun start hstart =>
    staysIn_next?.bind fun c? _ => ?_
  split
  · exact staysIn_refuseHere
  · refine staysIn_signSpan.bind fun span hspan => staysIn_remaining.bind fun count _ =>
      (staysIn_bracedHex hstart _ _).bind fun values _ => staysIn_here.bind fun last hlast =>
        staysIn_skip.bind fun _ _ => ?_
    exact staysIn_ite (staysIn_refuseSince hstart) (staysIn_charOfNumber ⟨hspan.2, hlast⟩ _ _)
  · refine (staysIn_fixedHex digits 0).bind fun number _ => staysIn_here.bind fun last hlast => ?_
    exact staysIn_charOfNumber ⟨hstart, hlast⟩ _ _

theorem staysIn_bracedName (fuel : Nat) (before : List Char) :
    (bracedName fuel before).StaysIn written fun _ => True := by
  induction fuel generalizing before with
  | zero => exact staysIn_refuseHere
  | succ fuel ih =>
    refine staysIn_skip.bind fun _ _ => staysIn_next?.bind fun c? _ => ?_
    split
    · exact staysIn_refuseHere
    · exact staysIn_pure trivial
    · exact ih _

theorem staysIn_property (negated : Bool) :
    (property negated).StaysIn written fun _ => True := by
  refine staysIn_skip.bind fun _ _ => staysIn_next?.bind fun c? _ => ?_
  split
  · exact staysIn_refuseHere
  · exact staysIn_remaining.bind fun _ _ => (staysIn_bracedName _ _).bind fun _ _ =>
      staysIn_bump.bind fun _ _ => staysIn_pure trivial
  · exact staysIn_refuseSign
  · exact staysIn_skip.bind fun _ _ => staysIn_pure trivial

theorem staysIn_boundaryWord (fuel : Nat) (before : List Char) :
    (boundaryWord fuel before).StaysIn written fun _ => True := by
  induction fuel generalizing before with
  | zero => exact staysIn_pure trivial
  | succ fuel ih =>
    refine staysIn_next?.bind fun c? _ => ?_
    cases c? with
    | none => exact staysIn_pure trivial
    | some c => exact staysIn_ite (staysIn_skip.bind fun _ _ => ih _) (staysIn_pure trivial)

theorem staysIn_boundary {start : Place} (hstart : start.IsIn written) :
    (boundary start).StaysIn written fun _ => True := by
  refine staysIn_get.bind fun before hbefore => staysIn_skip.bind fun _ _ =>
    staysIn_next?.bind fun c? _ => ?_
  cases c? with
  | none => exact staysIn_refuseSince hstart
  | some c =>
    refine staysIn_ite ((staysIn_returnTo hbefore).bind fun _ _ => staysIn_pure trivial) ?_
    refine staysIn_here.bind fun first hfirst => staysIn_remaining.bind fun _ _ =>
      (staysIn_boundaryWord _ _).bind fun word _ => staysIn_next?.bind fun c? _ => ?_
    refine staysIn_ite (staysIn_refuseSince hbefore.placeIsIn) ?_
    split
    · exact staysIn_refuseSince hfirst
    · exact staysIn_bump.bind fun _ _ => staysIn_pure trivial

/-- The atom of an escape is read after the backslash, which was at the place. -/
theorem staysIn_escapeAtom {start : Place} {c : Char} (hstart : start.IsIn written)
    (hstop : ((start.after '\\').after c).IsIn written) :
    (escapeAtom start c).StaysIn written fun _ => True := by
  have hspan : Span.IsIn written ⟨start, (start.after '\\').after c⟩ := ⟨hstart, hstop⟩
  refine staysIn_ite (staysIn_refuse hspan) (staysIn_ite (staysIn_hex 2)
    (staysIn_ite (staysIn_hex 4) (staysIn_ite (staysIn_hex 8)
      (staysIn_ite (staysIn_property _) (staysIn_bump.bind fun _ _ =>
        staysIn_ite (staysIn_pure trivial) (staysIn_next?.bind fun c? _ => staysIn_ite
          ((staysIn_boundary hstart).bind fun _ _ => staysIn_pure trivial) ?_))))))
  split
  · exact staysIn_pure trivial
  · exact staysIn_pure trivial
  · exact staysIn_pure trivial
  · exact staysIn_refuse hspan

theorem staysInFrom_escape : escape.StaysInFrom written '\\' (·.span.IsIn written) := by
  intro cursor hcursor hhead
  rw [escape, endsIn_here_bind, endsIn_bump_bind, endsIn_next?_bind]
  have hstart := hcursor.placeIsIn
  cases hnext : cursor.advanced.rest.head? with
  | none => exact staysIn_refuseSince hstart _ hcursor.advanced
  | some c =>
    have hstop := hcursor.advanced.advanced.placeIsIn
    rw [Cursor.place_advanced hnext, Cursor.place_advanced hhead] at hstop
    refine ((staysIn_escapeAtom hstart hstop).bind fun _ _ => ?_) _ hcursor.advanced
    exact staysIn_here.bind fun _ hplace => staysIn_pure ⟨hstart, hplace⟩

end VisualNovel.Pattern
