/-
# Refusals are told by places of the pattern

A text is refused while it is read, or for a part of the pattern that it is read as: a part that is
nested too deep, or one that has a fault. Either way the report shows spans of the text itself.
Every search for a part to refuse gives the span of a part that it has gone through.
-/

import VisualNovel.Pattern.Check
import VisualNovel.Proofs.Pattern.Parser

namespace VisualNovel.Pattern

variable {span : Span} {unicode : Bool} {fault : Fault}

theorem eq_some_or_of_orElse {α : Type} {first second : Option α} {found : α}
    (hfound : (first.orElse fun _ => second) = some found) :
    first = some found ∨ second = some found := by
  rw [Option.orElse_eq_or, Option.or_eq_some_iff] at hfound
  exact hfound.imp_right And.right

/-- Of two searches, one after the other, it is one or the other that has found the part. -/
theorem mem_append_of_orElse {α : Type} {first second : Option α} {found : α}
    {left right : List Span} (hfound : (first.orElse fun _ => second) = some found)
    (hleft : first = some found → span ∈ left) (hright : second = some found → span ∈ right) :
    span ∈ left ++ right :=
  List.mem_append.mpr ((eq_some_or_of_orElse hfound).imp hleft hright)

/-- Without room it is the part itself that is nested too deep, else one of its parts. -/
theorem mem_cons_of_tooDeep? {room : Nat} {own : Span} {inner : List Span}
    {search : Nat → Option Span}
    (hfound : (match room with | 0 => some own | room + 1 => search room) = some span)
    (hsearch : ∀ room, search room = some span → span ∈ inner) : span ∈ own :: inner := by
  cases room with
  | zero =>
    cases hfound
    exact List.mem_cons_self
  | succ room => exact List.mem_cons_of_mem own (hsearch room hfound)

namespace CharSet

mutual

theorem mem_spans_of_tooDeep? {room : Nat} :
    ∀ {set : CharSet}, set.tooDeep? room = some span → span ∈ set.spans
  | .empty _, h | .sign _, h | .range _ _ _, h | .named _ _ _, h => nomatch h
  | .bracketed _ _ _, h => mem_cons_of_tooDeep? h fun _ h => mem_spans_of_tooDeep? h
  | .union _ _, h => mem_cons_of_tooDeep? h fun _ h => mem_spansOf_of_anyTooDeep? h
  | .operation _ _ _ _, h => mem_cons_of_tooDeep? h fun _ h =>
    mem_append_of_orElse h (fun h => mem_spans_of_tooDeep? h) fun h => mem_spans_of_tooDeep? h

theorem mem_spansOf_of_anyTooDeep? {room : Nat} :
    ∀ {sets : List CharSet}, anyTooDeep? room sets = some span → span ∈ spansOf sets
  | [], h => nomatch h
  | _ :: _, h =>
    mem_append_of_orElse h (fun h => mem_spans_of_tooDeep? h) fun h => mem_spansOf_of_anyTooDeep? h

end

theorem span_eq_of_faultInSet? {sign : Sign}
    (hfault : sign.faultInSet? unicode = some (fault, span)) : span = sign.span := by
  obtain ⟨_, _, heq⟩ := Option.map_eq_some_iff.mp hfault
  exact (Prod.mk.inj heq).2.symm

mutual

theorem mem_spans_of_fault? :
    ∀ {set : CharSet}, set.fault? unicode = some (fault, span) → span ∈ set.spans
  | .empty _, h => nomatch h
  | .sign _, h => List.mem_singleton.mpr (span_eq_of_faultInSet? h)
  | .range _ _ _, h => List.mem_cons_of_mem _ <| by
    rcases eq_some_or_of_orElse h with h | h
    · simp [span_eq_of_faultInSet? h]
    · simp [span_eq_of_faultInSet? h]
  | .named _ _ _, h => by
    obtain ⟨_, heq⟩ := Option.ite_none_right_eq_some.mp h
    cases heq
    exact List.mem_cons_self
  | .bracketed _ _ _, h => by
    rcases eq_some_or_of_orElse h with h | h
    · exact List.mem_cons_of_mem _ (mem_spans_of_fault? h)
    · obtain ⟨_, heq⟩ := Option.ite_none_right_eq_some.mp h
      cases heq
      exact List.mem_cons_self
  | .union _ _, h => List.mem_cons_of_mem _ (mem_spansOf_of_firstFault? h)
  | .operation _ _ _ _, h => List.mem_cons_of_mem _ <|
    mem_append_of_orElse h (fun h => mem_spans_of_fault? h) fun h => mem_spans_of_fault? h

theorem mem_spansOf_of_firstFault? :
    ∀ {sets : List CharSet}, firstFault? unicode sets = some (fault, span) → span ∈ spansOf sets
  | [], h => nomatch h
  | _ :: _, h =>
    mem_append_of_orElse h (fun h => mem_spans_of_fault? h) fun h => mem_spansOf_of_firstFault? h

end

end CharSet

mutual

theorem mem_spans_of_tooDeep? {room : Nat} :
    ∀ {pattern : Pattern}, pattern.tooDeep? room = some span → span ∈ pattern.spans
  | .empty _, h | .flags _ _, h | .sign _, h => nomatch h
  | .charSet _, h => CharSet.mem_spans_of_tooDeep? h
  | .repetition _ _ _ _ _, h => mem_cons_of_tooDeep? h fun _ h => mem_spans_of_tooDeep? h
  | .group _ _ _ _, h => mem_cons_of_tooDeep? h fun _ h => mem_spans_of_tooDeep? h
  | .alternation _ _, h => mem_cons_of_tooDeep? h fun _ h => mem_spansOf_of_anyTooDeep? h
  | .sequence _ _, h => mem_cons_of_tooDeep? h fun _ h => mem_spansOf_of_anyTooDeep? h

theorem mem_spansOf_of_anyTooDeep? {room : Nat} :
    ∀ {parts : List Pattern}, anyTooDeep? room parts = some span → span ∈ spansOf parts
  | [], h => nomatch h
  | _ :: _, h =>
    mem_append_of_orElse h (fun h => mem_spans_of_tooDeep? h) fun h => mem_spansOf_of_anyTooDeep? h

end

mutual

theorem mem_spans_of_unicodeAfter {unicode : Bool} :
    ∀ {pattern : Pattern}, pattern.unicodeAfter unicode = .error (fault, span) →
      span ∈ pattern.spans
  | .empty _, h | .flags _ _, h => nomatch h
  | .sign found, h => by
    unfold unicodeAfter at h
    split at h
    next =>
      cases h
      exact List.mem_cons_self
    next => cases h
  | .charSet set, h => by
    unfold unicodeAfter at h
    split at h
    next hfault =>
      cases h
      exact CharSet.mem_spans_of_fault? hfault
    next => cases h
  | .repetition _ _ _ _ part, h => List.mem_cons_of_mem _ (mem_spans_of_unicodeAfter h)
  | .group _ _ found inner, h => by
    unfold unicodeAfter at h
    cases hinner : inner.unicodeAfter ((found.state? .unicode).getD unicode) with
    | ok _ =>
      rw [hinner] at h
      cases h
    | error _ =>
      rw [hinner] at h
      cases h
      exact List.mem_cons_of_mem _ (mem_spans_of_unicodeAfter hinner)
  | .alternation _ _, h => List.mem_cons_of_mem _ (mem_spansOf_of_unicodeAfterAll h)
  | .sequence _ _, h => List.mem_cons_of_mem _ (mem_spansOf_of_unicodeAfterAll h)

theorem mem_spansOf_of_unicodeAfterAll {unicode : Bool} :
    ∀ {parts : List Pattern}, unicodeAfterAll unicode parts = .error (fault, span) →
      span ∈ spansOf parts
  | [], h => nomatch h
  | part :: rest, h => by
    unfold unicodeAfterAll at h
    split at h
    next => exact List.mem_append_right _ (mem_spansOf_of_unicodeAfterAll h)
    next hpart =>
      cases h
      exact List.mem_append_left _ (mem_spans_of_unicodeAfter hpart)

end

/-- A text that is no pattern is refused for spans of it. -/
theorem isIn_of_refusal? {written : List Char} {refusal : Refusal}
    (hrefusal : refusal? written = some refusal) : refusal.IsIn written := by
  have hparse := parse_isIn written
  unfold refusal? at hrefusal
  split at hrefusal
  next heq =>
    rw [heq] at hparse
    cases hrefusal
    exact hparse
  next heq =>
    rw [heq] at hparse
    split at hrefusal
    next hdeep =>
      cases hrefusal
      exact ⟨hparse _ (mem_spans_of_tooDeep? hdeep), nofun⟩
    next =>
      split at hrefusal
      next hfault =>
        cases hrefusal
        exact ⟨hparse _ (mem_spans_of_unicodeAfter hfault), nofun⟩
      next =>
        obtain ⟨_, heq⟩ := Option.ite_none_right_eq_some.mp hrefusal
        cases heq
        trivial

/-- What is wrong is told by the line and the column in which it starts, and those in which it ends,
as they are in the text. -/
theorem exists_before_of_refusal? {written : List Char} {earlier : Option Span} {place : Place}
    (hrefusal : refusal? written = some (.malformed fault span earlier))
    (hplace : place ∈ [span.start, span.stop]) :
    ∃ before behind, written = before ++ behind ∧ place.line = before.count '\n' + 1 ∧
      place.column = (before.reverse.takeWhile (· ≠ '\n')).length + 1 := by
  have hspan : span.IsIn written := (isIn_of_refusal? hrefusal).1
  have hin : place.IsIn written := by
    rcases List.mem_pair.mp hplace with rfl | rfl
    · exact hspan.1
    · exact hspan.2
  obtain ⟨before, behind, hwritten, rfl⟩ := hin
  rw [placeBehind_eq]
  exact ⟨before, behind, hwritten, rfl, rfl⟩

end VisualNovel.Pattern
