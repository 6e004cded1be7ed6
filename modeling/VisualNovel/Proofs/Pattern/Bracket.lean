/-
# Sets are read in place

A set is told by its own span and by those of its parts, all of which stand in the pattern. While a
set is being read this holds of all that has been read of it and of the sets around it.
-/

import VisualNovel.Pattern.Bracket
import VisualNovel.Proofs.Pattern.Escape

namespace VisualNovel.Pattern

open Scan

variable {written : List Char}

mutual

/-- The spans of a set and of the parts of it. -/
def CharSet.spans : CharSet → List Span
  | .empty place => [.empty place]
  | .sign found => [found.span]
  | .range span first last => [span, first.span, last.span]
  | .named span _ _ => [span]
  | .bracketed span _ inner => span :: inner.spans
  | .union span items => span :: CharSet.spansOf items
  | .operation span _ left right => span :: (left.spans ++ right.spans)

/-- The spans of sets. -/
def CharSet.spansOf : List CharSet → List Span
  | [] => []
  | set :: rest => set.spans ++ CharSet.spansOf rest

end

namespace CharSet

/-- The set and all parts of it stand in the pattern. -/
def IsIn (written : List Char) (set : CharSet) : Prop := ∀ span ∈ set.spans, span.IsIn written

theorem span_mem_spans (set : CharSet) : set.span ∈ set.spans := by
  cases set <;> exact List.mem_cons_self

theorem spansOf_eq_flatMap (sets : List CharSet) : spansOf sets = sets.flatMap spans := by
  induction sets with
  | nil => rfl
  | cons set rest ih =>
    rw [List.flatMap_cons, ← ih]
    rfl

namespace IsIn

theorem span {set : CharSet} (hset : set.IsIn written) : set.span.IsIn written :=
  hset _ set.span_mem_spans

theorem ofSpans {set : CharSet} {span : Span} {inner : List Span}
    (hspans : set.spans = span :: inner) (hspan : span.IsIn written)
    (hinner : ∀ span ∈ inner, span.IsIn written) : set.IsIn written := by
  rw [IsIn, hspans]
  exact List.forall_mem_cons.mpr ⟨hspan, hinner⟩

theorem ofSign {sign : Sign} (hspan : sign.span.IsIn written) : (CharSet.sign sign).IsIn written :=
  ofSpans rfl hspan nofun

theorem ofItems {span : Span} {items : List CharSet} (hspan : span.IsIn written)
    (hitems : ∀ item ∈ items, item.IsIn written) : (CharSet.union span items).IsIn written := by
  refine ofSpans rfl hspan fun inner hinner => ?_
  rw [spansOf_eq_flatMap] at hinner
  obtain ⟨item, hitem, hinner⟩ := List.mem_flatMap.mp hinner
  exact hitems item hitem inner hinner

end IsIn

end CharSet

namespace OpenSet

/-- All that has been read of the set stands in the pattern. -/
structure IsIn (written : List Char) (current : OpenSet) : Prop where
  opening : current.opening.IsIn written
  left : ∀ left ∈ current.left?, left.1.IsIn written
  start : current.start.IsIn written
  items : ∀ item ∈ current.items, item.IsIn written

namespace IsIn

variable {current : OpenSet} {place : Place}

theorem push {item : CharSet} (hcurrent : current.IsIn written) (hitem : item.IsIn written) :
    (current.push item).IsIn written :=
  { hcurrent with items := List.forall_mem_cons.mpr ⟨hitem, hcurrent.items⟩ }

theorem right (hcurrent : current.IsIn written) : current.right.IsIn written := by
  have hitems : ∀ item ∈ current.items.reverse, item.IsIn written := by
    simpa using hcurrent.items
  unfold OpenSet.right
  split
  next => exact .ofSpans rfl ⟨hcurrent.start, hcurrent.start⟩ nofun
  next item hreverse => exact hitems item (by simp [hreverse])
  next first rest _ hreverse =>
    rw [hreverse] at hitems
    have hlast : (first :: rest).getLastD first ∈ first :: rest := by
      rw [List.getLastD_cons]
      exact List.getLastD_mem_cons
    exact .ofItems ⟨(hitems first List.mem_cons_self).span.1, (hitems _ hlast).span.2⟩ hitems

theorem whole (hcurrent : current.IsIn written) : current.whole.IsIn written := by
  have hright := hcurrent.right
  unfold OpenSet.whole
  cases hleft : current.left? with
  | none => exact hright
  | some found =>
    have hfound := hcurrent.left found hleft
    exact .ofSpans rfl ⟨hfound.span.1, hright.span.2⟩
      (List.forall_mem_append.mpr ⟨hfound, hright⟩)

theorem operated {operator : SetOperator} (hcurrent : current.IsIn written)
    (hplace : place.IsIn written) : (current.operated operator place).IsIn written where
  opening := hcurrent.opening
  left := by
    rintro _ ⟨⟩
    exact hcurrent.whole
  start := hplace
  items := nofun

theorem closed (hcurrent : current.IsIn written) (hplace : place.IsIn written) :
    (current.closed place).IsIn written :=
  .ofSpans rfl ⟨hcurrent.opening.1, hplace⟩ hcurrent.whole

end IsIn

end OpenSet

theorem staysIn_skipWithin {refusal : Scan Unit}
    (hrefusal : refusal.StaysIn written fun _ => True) :
    (skipWithin refusal).StaysIn written fun _ => True :=
  staysIn_skip.bind fun _ _ => staysIn_next?.bind fun _ _ =>
    staysIn_ite hrefusal (staysIn_pure trivial)

theorem staysIn_verbatim (c : Char) : (verbatim c).StaysIn written (·.span.IsIn written) :=
  staysIn_signSpan.bind fun _ hspan => staysIn_pure hspan

theorem staysIn_hyphens {start : Place} (hstart : start.IsIn written) (fuel : Nat)
    {before : List CharSet} (hbefore : ∀ item ∈ before, item.IsIn written) :
    (hyphens start fuel before).StaysIn written fun items => ∀ item ∈ items, item.IsIn written := by
  induction fuel generalizing before with
  | zero => exact staysIn_pure hbefore
  | succ fuel ih =>
    refine staysIn_next?.bind fun c? _ => staysIn_ite ?_ (staysIn_pure hbefore)
    refine (staysIn_verbatim '-').bind fun sign hsign =>
      (staysIn_skipWithin (staysIn_refuse ⟨hstart, hstart⟩)).bind fun _ _ => ih ?_
    exact List.forall_mem_cons.mpr ⟨CharSet.IsIn.ofSign hsign, hbefore⟩

theorem staysIn_openSet : openSet.StaysIn written (·.IsIn written) := by
  refine staysIn_here.bind fun start hstart => ?_
  have hwithin : (skipWithin (refuseSince .setUnclosed start)).StaysIn written fun _ => True :=
    staysIn_skipWithin (staysIn_refuseSince hstart)
  refine hwithin.bind fun _ _ => staysIn_next?.bind fun c? _ => staysIn_when hwithin ?_
  refine staysIn_here.bind fun place hplace => staysIn_remaining.bind fun _ _ =>
    (staysIn_hyphens hstart _ (List.forall_mem_nil _)).bind fun items hitems =>
      staysIn_next?.bind fun c? _ => staysIn_ite ?_ ?_
  · refine (staysIn_verbatim ']').bind fun sign hsign => hwithin.bind fun _ _ =>
      staysIn_here.bind fun stop hstop => staysIn_pure ?_
    exact ⟨⟨hstart, hstop⟩, nofun, hplace,
      List.forall_mem_singleton.mpr (CharSet.IsIn.ofSign hsign)⟩
  · exact staysIn_here.bind fun stop hstop =>
      staysIn_pure ⟨⟨hstart, hstop⟩, nofun, hplace, hitems⟩

theorem staysIn_namedSet? :
    namedSet?.StaysIn written fun set? => ∀ set ∈ set?, set.IsIn written := by
  refine staysIn_get.bind fun cursor _ => staysIn_ite (staysIn_pure nofun) ?_
  refine staysIn_here.bind fun start hstart => staysIn_forIn_return ?_ (staysIn_pure nofun)
  intro item _
  refine (staysIn_word? item.1).bind fun _ _ => staysIn_ite ?_ (staysIn_pure nofun)
  refine staysIn_here.bind fun stop hstop => staysIn_pure ?_
  rintro _ ⟨⟩ _ ⟨⟩
  exact .ofSpans rfl ⟨hstart, hstop⟩ nofun

theorem staysIn_setSign : setSign.StaysIn written (·.span.IsIn written) := by
  refine staysIn_next?_bind staysIn_refuseHere fun c => ?_
  split
  next heq =>
    cases heq
    exact staysInFrom_escape
  next heq => exact ((staysIn_verbatim _).bind fun _ hsign =>
    staysIn_bump.bind fun _ _ => staysIn_pure hsign).from
  next heq => cases heq

theorem staysIn_setItem {sign : Sign} (hsign : sign.span.IsIn written) :
    (setItem sign).StaysIn written (·.IsIn written) := by
  unfold setItem
  split
  · exact staysIn_refuse hsign
  · exact staysIn_refuse hsign
  · exact staysIn_pure (CharSet.IsIn.ofSign hsign)

theorem staysIn_rangeBound {sign : Sign} (hsign : sign.span.IsIn written) :
    (rangeBound sign).StaysIn written fun _ => True := by
  unfold rangeBound
  split
  · exact staysIn_pure trivial
  · exact staysIn_refuse hsign

theorem staysIn_setRange {opening : Span} (hopening : opening.IsIn written) :
    (setRange opening).StaysIn written (·.IsIn written) := by
  refine staysIn_setSign.bind fun first hfirst => staysIn_settle.bind fun _ _ =>
    staysIn_next?.bind fun c? _ => staysIn_when (staysIn_refuse hopening) ?_
  refine staysIn_get.bind fun cursor _ => staysIn_next?.bind fun c? _ =>
    staysIn_ite (staysIn_setItem hfirst) ?_
  refine (staysIn_skipWithin (staysIn_refuse hopening)).bind fun _ _ =>
    staysIn_setSign.bind fun last hlast => (staysIn_rangeBound hfirst).bind fun _ _ =>
      (staysIn_rangeBound hlast).bind fun _ _ => ?_
  have hspan : Span.IsIn written ⟨first.span.start, last.span.stop⟩ := ⟨hfirst.1, hlast.2⟩
  refine staysIn_ite (staysIn_pure (.ofSpans rfl hspan ?_)) (staysIn_refuse hspan)
  exact List.forall_mem_cons.mpr ⟨hfirst, List.forall_mem_singleton.mpr hlast⟩

theorem staysIn_operator? : operator?.StaysIn written fun _ => True := by
  refine staysIn_forIn_return (fun item _ => ?_) (staysIn_pure trivial)
  refine (staysIn_word? item.1).bind fun _ _ => ?_
  exact staysIn_ite (staysIn_pure fun _ _ => trivial) (staysIn_pure nofun)

theorem staysIn_setRest (fuel : Nat) {current : OpenSet} {outer : List OpenSet}
    (hcurrent : current.IsIn written) (houter : ∀ set ∈ outer, set.IsIn written) :
    (setRest fuel current outer).StaysIn written (·.IsIn written) := by
  induction fuel generalizing current outer with
  | zero => exact staysIn_refuse hcurrent.opening
  | succ fuel ih =>
    refine staysIn_settle.bind fun _ _ => staysIn_next?.bind fun c? _ => ?_
    split
    · exact staysIn_refuse hcurrent.opening
    · refine staysIn_namedSet?.bind fun set? hset => ?_
      cases set? with
      | some set => exact ih (hcurrent.push (hset set rfl)) houter
      | none =>
        exact staysIn_openSet.bind fun inner hinner =>
          ih hinner (List.forall_mem_cons.mpr ⟨hcurrent, houter⟩)
    · refine staysIn_bump.bind fun _ _ => staysIn_here.bind fun place hplace => ?_
      have hset := hcurrent.closed hplace
      cases outer with
      | nil => exact staysIn_pure hset
      | cons parent outer =>
        obtain ⟨hparent, hrest⟩ := List.forall_mem_cons.mp houter
        exact ih (hparent.push hset) hrest
    · refine staysIn_operator?.bind fun operator? _ => ?_
      cases operator? with
      | some operator =>
        exact staysIn_here.bind fun place hplace => ih (hcurrent.operated hplace) houter
      | none =>
        exact (staysIn_setRange hcurrent.opening).bind fun item hitem =>
          ih (hcurrent.push hitem) houter

theorem staysIn_bracketed : bracketed.StaysIn written (·.IsIn written) :=
  staysIn_openSet.bind fun _ hcurrent => staysIn_remaining.bind fun _ _ =>
    staysIn_setRest _ hcurrent nofun

end VisualNovel.Pattern
