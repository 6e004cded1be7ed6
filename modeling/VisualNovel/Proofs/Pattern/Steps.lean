/-
# Steps that stay in a pattern

A pattern is gone through from its start. Wherever a step starts, it either ends at a place of the
pattern or refuses the pattern, and what it refuses is told by places of the pattern. Both are kept
when steps follow each other. So it is enough to show them once for every way to go on: everything
that is read of a pattern is put together of those.

Only the places are looked at. Which patterns are refused, and for what, is not.
-/

import VisualNovel.Pattern.Cursor
import Mathlib.Data.List.Induction

namespace VisualNovel.Pattern

variable {written : List Char}

/-- The place behind a part of a pattern that starts at its start. -/
def placeBehind (before : List Char) : Place := before.foldl Place.after {}

/-- The place is one of the pattern: in front of one of its characters, or behind the last. -/
def Place.IsIn (written : List Char) (place : Place) : Prop :=
  ∃ before behind, written = before ++ behind ∧ place = placeBehind before

/-- The ends of the span are places of the pattern. -/
def Span.IsIn (written : List Char) (span : Span) : Prop :=
  span.start.IsIn written ∧ span.stop.IsIn written

/-- What is refused is told by spans of the pattern. -/
def Refusal.IsIn (written : List Char) : Refusal → Prop
  | .malformed _ span earlier => span.IsIn written ∧ ∀ first ∈ earlier, first.IsIn written
  | .tooLarge _ => True

/-- The text in front of the cursor and the rest are the pattern, and its place is behind the text
in front. The names so far stand in the pattern. -/
structure Cursor.IsIn (written : List Char) (cursor : Cursor) : Prop where
  place : ∃ before, written = before ++ cursor.rest ∧ cursor.place = placeBehind before
  names : ∀ entry ∈ cursor.names, entry.2.IsIn written

theorem placeBehind_concat (before : List Char) (c : Char) :
    placeBehind (before ++ [c]) = (placeBehind before).after c := by
  rw [placeBehind, List.foldl_append]
  rfl

/-- A place is told by its line and by its column in that line, both from one. -/
theorem placeBehind_eq (before : List Char) :
    placeBehind before =
      ⟨before.count '\n' + 1, (before.reverse.takeWhile (· ≠ '\n')).length + 1⟩ := by
  induction before using List.reverseRecOn with
  | nil => rfl
  | append_singleton before c ih =>
    rw [placeBehind_concat, ih, Place.after]
    by_cases hc : c = '\n'
    · simp [hc]
    · simp [hc]

theorem Cursor.place_advanced {cursor : Cursor} {c : Char} (hhead : cursor.rest.head? = some c) :
    cursor.advanced.place = cursor.place.after c := by
  obtain ⟨rest, hrest⟩ := List.head?_eq_some_iff.mp hhead
  rw [Cursor.advanced, hrest]

namespace Cursor.IsIn

variable {cursor : Cursor}

theorem start (written : List Char) : Cursor.IsIn written { rest := written } :=
  ⟨⟨[], rfl, rfl⟩, nofun⟩

theorem placeIsIn (hcursor : cursor.IsIn written) : cursor.place.IsIn written := by
  obtain ⟨before, hwritten, hplace⟩ := hcursor.place
  exact ⟨before, cursor.rest, hwritten, hplace⟩

theorem behind {c : Char} {rest : List Char} (hcursor : cursor.IsIn written)
    (hrest : cursor.rest = c :: rest) :
    ({ cursor with rest, place := cursor.place.after c } : Cursor).IsIn written := by
  obtain ⟨before, hwritten, hplace⟩ := hcursor.place
  refine ⟨⟨before ++ [c], ?_, ?_⟩, hcursor.names⟩
  · rw [hwritten, hrest, List.append_assoc, List.singleton_append]
  · rw [hplace, placeBehind_concat]

theorem advanced (hcursor : cursor.IsIn written) : cursor.advanced.IsIn written := by
  unfold Cursor.advanced
  split
  next => exact hcursor
  next c rest hrest => exact hcursor.behind hrest

theorem skipLayout {verbose inComment : Bool} {names : List (String × Span)} {place : Place}
    {rest : List Char} (hcursor : Cursor.IsIn written ⟨rest, place, verbose, names⟩) :
    Cursor.IsIn written ⟨(Pattern.skipLayout inComment place rest).1,
      (Pattern.skipLayout inComment place rest).2, verbose, names⟩ := by
  fun_induction Pattern.skipLayout inComment place rest with
  | case1 => exact hcursor
  | case2 _ _ _ ih => exact ih (hcursor.behind rfl)
  | case3 _ _ _ _ _ _ ih => exact ih (hcursor.behind rfl)
  | case4 _ _ _ _ _ ih => exact ih (hcursor.behind rfl)
  | case5 => exact hcursor

theorem settled (hcursor : cursor.IsIn written) : cursor.settled.IsIn written := by
  unfold Cursor.settled
  split
  · exact hcursor.skipLayout
  · exact hcursor

end Cursor.IsIn

namespace Scan

variable {α β : Type} {step : Scan α} {further : α → Scan β} {holds : α → Prop} {wanted : β → Prop}
  {cursor : Cursor}

/-- From the cursor the step leads to a value with the property and to a cursor in the pattern, or
it refuses something that is in the pattern. -/
def EndsIn (written : List Char) (holds : α → Prop) (step : Scan α) (cursor : Cursor) : Prop :=
  match step.run cursor with
  | .ok (value, next) => holds value ∧ next.IsIn written
  | .error refusal => refusal.IsIn written

/-- So it does from every cursor in the pattern. -/
def StaysIn (written : List Char) (holds : α → Prop) (step : Scan α) : Prop :=
  ∀ cursor : Cursor, cursor.IsIn written → step.EndsIn written holds cursor

/-- So it does from every cursor in the pattern that has the character before it. -/
def StaysInFrom (written : List Char) (c : Char) (holds : α → Prop) (step : Scan α) : Prop :=
  ∀ cursor : Cursor, cursor.IsIn written → cursor.rest.head? = some c →
    step.EndsIn written holds cursor

theorem endsIn_here_bind {further : Place → Scan β} :
    (here >>= further).EndsIn written wanted cursor ↔
      (further cursor.place).EndsIn written wanted cursor :=
  Iff.rfl

theorem endsIn_bump_bind {further : Unit → Scan β} :
    (bump >>= further).EndsIn written wanted cursor ↔
      (further ()).EndsIn written wanted cursor.advanced :=
  Iff.rfl

theorem endsIn_next?_bind {further : Option Char → Scan β} :
    (next? >>= further).EndsIn written wanted cursor ↔
      (further cursor.rest.head?).EndsIn written wanted cursor :=
  Iff.rfl

theorem StaysIn.mono {wanted : α → Prop} (hstep : step.StaysIn written holds)
    (hholds : ∀ value, holds value → wanted value) : step.StaysIn written wanted := by
  intro cursor hcursor
  have hend := hstep cursor hcursor
  unfold EndsIn at hend ⊢
  split at hend
  next => exact ⟨hholds _ hend.1, hend.2⟩
  next => exact hend

/-- What follows a step starts where the step ends, with the value that it has found. -/
theorem EndsIn.bind (hstep : step.EndsIn written holds cursor)
    (hfurther : ∀ value, holds value → (further value).StaysIn written wanted) :
    (step >>= further).EndsIn written wanted cursor := by
  have hrun : (step >>= further).run cursor =
      step.run cursor >>= fun (value, next) => (further value).run next := rfl
  unfold EndsIn at hstep ⊢
  rw [hrun]
  cases hend : step.run cursor with
  | error refusal =>
    rw [hend] at hstep
    exact hstep
  | ok found =>
    rw [hend] at hstep
    exact hfurther found.1 hstep.1 found.2 hstep.2

theorem StaysIn.bind (hstep : step.StaysIn written holds)
    (hfurther : ∀ value, holds value → (further value).StaysIn written wanted) :
    (step >>= further).StaysIn written wanted :=
  fun cursor hcursor => (hstep cursor hcursor).bind hfurther

theorem StaysInFrom.bind {c : Char} (hstep : step.StaysInFrom written c holds)
    (hfurther : ∀ value, holds value → (further value).StaysIn written wanted) :
    (step >>= further).StaysInFrom written c wanted :=
  fun cursor hcursor hc => (hstep cursor hcursor hc).bind hfurther

theorem StaysIn.from {c : Char} (hstep : step.StaysIn written holds) :
    step.StaysInFrom written c holds :=
  fun cursor hcursor _ => hstep cursor hcursor

theorem staysIn_pure {value : α} (hvalue : holds value) :
    (pure value : Scan α).StaysIn written holds :=
  fun _ hcursor => ⟨hvalue, hcursor⟩

/-- The next character is known to what is done with it. -/
theorem staysIn_next?_bind {further : Option Char → Scan β}
    (hnone : (further none).StaysIn written wanted)
    (hsome : ∀ c, (further (some c)).StaysInFrom written c wanted) :
    (next? >>= further).StaysIn written wanted := by
  intro cursor hcursor
  rw [endsIn_next?_bind]
  cases hhead : cursor.rest.head? with
  | none => exact hnone cursor hcursor
  | some c => exact hsome c cursor hcursor hhead

theorem staysIn_here : here.StaysIn written (·.IsIn written) :=
  fun _ hcursor => ⟨hcursor.placeIsIn, hcursor⟩

theorem staysIn_next? : next?.StaysIn written fun _ => True :=
  fun _ hcursor => ⟨trivial, hcursor⟩

theorem staysIn_remaining : remaining.StaysIn written fun _ => True :=
  fun _ hcursor => ⟨trivial, hcursor⟩

theorem staysIn_signSpan : signSpan.StaysIn written (·.IsIn written) :=
  fun _ hcursor => ⟨⟨hcursor.placeIsIn, hcursor.advanced.placeIsIn⟩, hcursor⟩

theorem staysIn_bump : bump.StaysIn written fun _ => True :=
  fun _ hcursor => ⟨trivial, hcursor.advanced⟩

theorem staysIn_settle : settle.StaysIn written fun _ => True :=
  fun _ hcursor => ⟨trivial, hcursor.settled⟩

theorem staysIn_skip : skip.StaysIn written fun _ => True :=
  fun _ hcursor => ⟨trivial, hcursor.advanced.settled⟩

theorem staysIn_get : (get : Scan Cursor).StaysIn written (·.IsIn written) :=
  fun _ hcursor => ⟨hcursor, hcursor⟩

theorem staysIn_modify {change : Cursor → Cursor}
    (hchange : ∀ cursor : Cursor, cursor.IsIn written → (change cursor).IsIn written) :
    (modify change : Scan PUnit).StaysIn written fun _ => True :=
  fun cursor hcursor => ⟨trivial, hchange cursor hcursor⟩

/-- It does not matter for the places whether blanks are passed over. -/
theorem staysIn_modify_verbose (verbose : Cursor → Bool) :
    (modify fun cursor => { cursor with verbose := verbose cursor } : Scan PUnit).StaysIn written
      fun _ => True :=
  staysIn_modify fun _ hcursor => ⟨hcursor.place, hcursor.names⟩

theorem staysIn_returnTo {earlier : Cursor} (hearlier : earlier.IsIn written) :
    (returnTo earlier).StaysIn written fun _ => True :=
  fun _ _ => ⟨trivial, hearlier⟩

theorem staysIn_throw {refusal : Refusal} (hrefusal : refusal.IsIn written) :
    (throw refusal : Scan α).StaysIn written holds :=
  fun _ _ => hrefusal

theorem staysIn_refuse {fault : Fault} {span : Span} (hspan : span.IsIn written) :
    (refuse fault span : Scan α).StaysIn written holds :=
  staysIn_throw ⟨hspan, nofun⟩

theorem staysIn_refuseSince {fault : Fault} {start : Place} (hstart : start.IsIn written) :
    (refuseSince fault start : Scan α).StaysIn written holds :=
  staysIn_here.bind fun _ hstop => staysIn_refuse ⟨hstart, hstop⟩

theorem staysIn_refuseHere {fault : Fault} : (refuseHere fault : Scan α).StaysIn written holds :=
  staysIn_here.bind fun _ hplace => staysIn_refuse ⟨hplace, hplace⟩

theorem staysIn_refuseSign {fault : Fault} : (refuseSign fault : Scan α).StaysIn written holds :=
  staysIn_signSpan.bind fun _ hspan => staysIn_refuse hspan

/-- A refusal that has been kept is raised. -/
theorem staysIn_lift {found : Except Refusal α}
    (hfound : ∀ refusal, found = .error refusal → refusal.IsIn written) :
    (liftM found : Scan α).StaysIn written fun _ => True := by
  intro cursor hcursor
  cases found with
  | ok value => exact ⟨trivial, hcursor⟩
  | error refusal => exact hfound refusal rfl

theorem staysIn_ite {condition : Prop} [Decidable condition] {other : Scan α}
    (hthen : step.StaysIn written holds) (helse : other.StaysIn written holds) :
    (if condition then step else other).StaysIn written holds := by
  split
  · exact hthen
  · exact helse

/-- A step that is taken on a condition may stand in front of any other. -/
theorem staysIn_when {condition : Prop} [Decidable condition] {before : Scan PUnit}
    {further : PUnit → Scan β} (hbefore : before.StaysIn written fun _ => True)
    (hfurther : (further ⟨⟩).StaysIn written wanted) :
    (if condition then before >>= further else further ⟨⟩).StaysIn written wanted :=
  staysIn_ite (hbefore.bind fun _ _ => hfurther) hfurther

/-- What every round of a loop keeps is kept by the loop. -/
theorem staysIn_forIn {ι σ : Type} (keeps : σ → Prop) {items : List ι} {state : σ}
    {round : ι → σ → Scan (ForInStep σ)} (hstate : keeps state)
    (hround : ∀ item state, keeps state →
      (round item state).StaysIn written fun next => keeps next.value) :
    (forIn items state round).StaysIn written keeps := by
  induction items generalizing state with
  | nil => exact staysIn_pure hstate
  | cons item rest ih =>
    rw [List.forIn_cons]
    refine (hround item state hstate).bind fun next hnext => ?_
    cases next with
    | done state => exact staysIn_pure hnext
    | yield state => exact ih hnext

/-- A loop may find what it looks for in any of its rounds. Else something else is done behind
it. -/
theorem staysIn_forIn_return {ι ρ : Type} {holds : ρ → Prop} {items : List ι}
    {round : ι → Option ρ × Unit → Scan (ForInStep (Option ρ × Unit))} {otherwise : Scan ρ}
    (hround : ∀ item state,
      (round item state).StaysIn written fun next => ∀ found ∈ next.value.1, holds found)
    (hotherwise : otherwise.StaysIn written holds) :
    (forIn items (none, ()) round >>= fun state =>
      match state.1 with
      | some found => pure found
      | none => otherwise).StaysIn written holds := by
  have hloop : (forIn items (none, ()) round).StaysIn written
      fun state => ∀ found ∈ state.1, holds found :=
    staysIn_forIn _ nofun fun item state _ => hround item state
  refine hloop.bind fun state hstate => ?_
  cases hfound : state.1 with
  | none => exact hotherwise
  | some found => exact staysIn_pure (hstate found hfound)

theorem staysIn_forM_bump (word : List Char) :
    (word.forM fun _ => bump).StaysIn written fun _ => True := by
  induction word with
  | nil => exact staysIn_pure trivial
  | cons c rest ih => exact staysIn_bump.bind fun _ _ => ih

theorem staysIn_word? (word : String) : (word? word).StaysIn written fun _ => True := by
  refine staysIn_get.bind fun cursor _ => staysIn_ite ?_ (staysIn_pure trivial)
  exact (staysIn_forM_bump word.toList).bind fun _ _ => staysIn_pure trivial

end Scan

end VisualNovel.Pattern
