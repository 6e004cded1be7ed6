/-
# Patterns are read in place

A pattern is told by its own span and by those of its parts. While it is being read, all that has
been read stands in it: the branches and parts so far, and those of every open group around them.
This is the invariant that the reader keeps by each part it reads.
-/

import VisualNovel.Pattern.Parser
import VisualNovel.Proofs.Entries
import VisualNovel.Proofs.Pattern.Bracket

namespace VisualNovel.Pattern

open Scan

variable {written : List Char}

mutual

/-- The spans of a pattern and of the parts of it. -/
def spans : Pattern → List Span
  | .empty place => [.empty place]
  | .flags span _ => [span]
  | .sign found => [found.span]
  | .charSet set => set.spans
  | .repetition span _ _ _ part => span :: part.spans
  | .group span _ _ inner => span :: inner.spans
  | .alternation span branches => span :: spansOf branches
  | .sequence span parts => span :: spansOf parts

/-- The spans of patterns. -/
def spansOf : List Pattern → List Span
  | [] => []
  | part :: rest => part.spans ++ spansOf rest

end

/-- The pattern that has been read and all parts of it stand in what is written. -/
def IsIn (written : List Char) (pattern : Pattern) : Prop :=
  ∀ span ∈ pattern.spans, span.IsIn written

theorem span_mem_spans (pattern : Pattern) : pattern.span ∈ pattern.spans := by
  cases pattern with
  | charSet set => exact set.span_mem_spans
  | _ => exact List.mem_cons_self

theorem spansOf_eq_flatMap (parts : List Pattern) : spansOf parts = parts.flatMap spans := by
  induction parts with
  | nil => rfl
  | cons part rest ih =>
    rw [List.flatMap_cons, ← ih]
    rfl

namespace IsIn

theorem span {pattern : Pattern} (hpattern : pattern.IsIn written) :
    pattern.span.IsIn written :=
  hpattern _ pattern.span_mem_spans

theorem ofSpans {span : Span} {pattern : Pattern} {inner : List Span}
    (hspans : pattern.spans = span :: inner) (hspan : span.IsIn written)
    (hinner : ∀ span ∈ inner, span.IsIn written) : pattern.IsIn written := by
  rw [IsIn, hspans]
  exact List.forall_mem_cons.mpr ⟨hspan, hinner⟩

theorem parts {parts : List Pattern} (hparts : ∀ part ∈ parts, part.IsIn written) :
    ∀ span ∈ spansOf parts, span.IsIn written := by
  intro span hspan
  rw [spansOf_eq_flatMap] at hspan
  obtain ⟨part, hpart, hspan⟩ := List.mem_flatMap.mp hspan
  exact hparts part hpart span hspan

end IsIn

namespace Level

/-- All that has been read of the level stands in the pattern. -/
structure IsIn (written : List Char) (level : Level) : Prop where
  first : level.first.IsIn written
  branches : ∀ branch ∈ level.branches, branch.IsIn written
  start : level.start.IsIn written
  parts : ∀ part ∈ level.parts, part.IsIn written

namespace IsIn

variable {level : Level} {stop : Place}

theorem opened {start : Place} (hstart : start.IsIn written) :
    Level.IsIn written { first := start, start } :=
  ⟨hstart, nofun, hstart, nofun⟩

theorem push {part : Pattern} (hlevel : level.IsIn written) (hpart : part.IsIn written) :
    (level.push part).IsIn written :=
  { hlevel with parts := List.forall_mem_cons.mpr ⟨hpart, hlevel.parts⟩ }

theorem sequence (hlevel : level.IsIn written) (hstop : stop.IsIn written) :
    (level.sequence stop).IsIn written := by
  have hparts := hlevel.parts
  unfold Level.sequence
  split
  next => exact Pattern.IsIn.ofSpans rfl ⟨hlevel.start, hlevel.start⟩ nofun
  next part hone => exact hparts part (by simp [hone])
  next =>
    refine Pattern.IsIn.ofSpans rfl ⟨hlevel.start, hstop⟩ (Pattern.IsIn.parts ?_)
    simpa using hparts

theorem branched (hlevel : level.IsIn written) (hstop : stop.IsIn written)
    (hbehind : (stop.after '|').IsIn written) : (level.branched stop).IsIn written where
  first := hlevel.first
  branches := List.forall_mem_cons.mpr ⟨hlevel.sequence hstop, hlevel.branches⟩
  start := hbehind
  parts := nofun

theorem whole (hlevel : level.IsIn written) (hstop : stop.IsIn written) :
    (level.whole stop).IsIn written := by
  have hsequence := hlevel.sequence hstop
  have hbranches := hlevel.branches
  unfold Level.whole
  split
  next => exact hsequence
  next =>
    refine Pattern.IsIn.ofSpans rfl ⟨hlevel.first, hstop⟩ (Pattern.IsIn.parts fun part hpart => ?_)
    rcases List.mem_cons.mp (List.mem_reverse.mp hpart) with rfl | hpart
    · exact hsequence
    · exact hbranches part hpart

end IsIn

end Level

/-- What has been read of the group and around it stands in the pattern. -/
structure OpenGroup.IsIn (written : List Char) (group : OpenGroup) : Prop where
  opening : group.opening.IsIn written
  around : group.around.IsIn written

/-- What an opening parenthesis opens is told by a span of the pattern. -/
def Opened.IsIn (written : List Char) : Opened → Prop
  | .group opening _ _ => opening.IsIn written
  | .alone span _ => span.IsIn written

theorem staysIn_repeated {level : Level} (hlevel : level.IsIn written) :
    (repeated level).StaysIn written fun found =>
      found.1.IsIn written ∧ found.2.IsIn written := by
  have hparts := hlevel.parts
  unfold repeated
  split
  next => exact staysIn_refuseHere
  next => exact staysIn_refuseHere
  next part parts _ hcons =>
    rw [hcons] at hparts
    obtain ⟨hpart, hrest⟩ := List.forall_mem_cons.mp hparts
    exact staysIn_pure ⟨hpart, { hlevel with parts := hrest }⟩

theorem staysIn_pushRepetition {level : Level} {part : Pattern} {least : Nat}
    {most : Option Nat} {isLazy : Bool} (hlevel : level.IsIn written) (hpart : part.IsIn written) :
    (pushRepetition level part least most isLazy).StaysIn written (·.IsIn written) :=
  staysIn_here.bind fun _ hstop =>
    staysIn_pure (hlevel.push (IsIn.ofSpans rfl ⟨hpart.span.1, hstop⟩ hpart))

theorem staysIn_lazyMark? : lazyMark?.StaysIn written fun _ => True :=
  staysIn_next?.bind fun _ _ =>
    staysIn_ite (staysIn_bump.bind fun _ _ => staysIn_pure trivial) (staysIn_pure trivial)

theorem staysIn_signRepetition {level : Level} {least : Nat} {most : Option Nat}
    (hlevel : level.IsIn written) :
    (signRepetition level least most).StaysIn written (·.IsIn written) :=
  (staysIn_repeated hlevel).bind fun _ hfound => staysIn_bump.bind fun _ _ =>
    staysIn_lazyMark?.bind fun _ _ => staysIn_pushRepetition hfound.2 hfound.1

theorem staysIn_skipBlanks {advance : Scan Unit} (hadvance : advance.StaysIn written fun _ => True)
    (fuel : Nat) : (skipBlanks advance fuel).StaysIn written fun _ => True := by
  induction fuel with
  | zero => exact staysIn_pure trivial
  | succ fuel ih =>
    exact staysIn_next?.bind fun _ _ =>
      staysIn_ite (hadvance.bind fun _ _ => ih) (staysIn_pure trivial)

theorem staysIn_digits (fuel : Nat) (before : List Char) :
    (digits fuel before).StaysIn written fun _ => True := by
  induction fuel generalizing before with
  | zero => exact staysIn_pure trivial
  | succ fuel ih =>
    refine staysIn_next?.bind fun c? _ => ?_
    cases c? with
    | none => exact staysIn_pure trivial
    | some c => exact staysIn_ite (staysIn_skip.bind fun _ _ => ih _) (staysIn_pure trivial)

/-- Where there is no number, the refusal is kept for later. -/
theorem staysIn_count :
    count.StaysIn written fun found =>
      ∀ refusal, found = .error refusal → refusal.IsIn written := by
  refine staysIn_remaining.bind fun _ _ => (staysIn_skipBlanks staysIn_bump _).bind fun _ _ =>
    staysIn_here.bind fun start hstart => staysIn_remaining.bind fun _ _ =>
      (staysIn_digits _ _).bind fun found _ => staysIn_here.bind fun stop hstop =>
        staysIn_remaining.bind fun _ _ => (staysIn_skipBlanks staysIn_skip _).bind fun _ _ => ?_
  have hspan : Span.IsIn written ⟨start, stop⟩ := ⟨hstart, hstop⟩
  refine staysIn_ite (staysIn_pure ?_) (staysIn_ite (staysIn_pure ?_) (staysIn_pure nofun))
  · rintro _ ⟨⟩
    exact ⟨hspan, nofun⟩
  · rintro _ ⟨⟩
    exact ⟨hspan, nofun⟩

theorem staysIn_counts {start : Place} (hstart : start.IsIn written) :
    (counts start).StaysIn written fun _ => True := by
  have hunclosed : Scan.StaysIn written (fun _ => True) (do
      if (← next?).isNone then refuseSince .countUnclosed start : Scan Unit) :=
    staysIn_next?.bind fun _ _ =>
      staysIn_ite (staysIn_refuseSince hstart) (staysIn_pure trivial)
  refine staysIn_skip.bind fun _ _ => hunclosed.bind fun _ _ =>
    staysIn_count.bind fun least hleast => hunclosed.bind fun _ _ =>
      staysIn_next?.bind fun _ _ => staysIn_ite ?_ ?_
  · refine staysIn_skip.bind fun _ _ => hunclosed.bind fun _ _ => staysIn_next?.bind fun _ _ =>
      staysIn_ite ?_ ?_
    · exact (staysIn_lift hleast).bind fun _ _ => staysIn_pure trivial
    · exact (staysIn_lift hleast).bind fun _ _ => staysIn_count.bind fun most hmost =>
        (staysIn_lift hmost).bind fun _ _ => staysIn_pure trivial
  · exact (staysIn_lift hleast).bind fun _ _ => staysIn_pure trivial

theorem staysIn_countedRepetition {level : Level} (hlevel : level.IsIn written) :
    (countedRepetition level).StaysIn written (·.IsIn written) := by
  refine staysIn_here.bind fun start hstart => (staysIn_repeated hlevel).bind fun found hfound =>
    (staysIn_counts hstart).bind fun _ _ => staysIn_next?.bind fun _ _ =>
      staysIn_when (staysIn_refuseSince hstart) ?_
  exact staysIn_skip.bind fun _ _ => staysIn_lazyMark?.bind fun _ _ =>
    staysIn_ite (staysIn_pushRepetition hfound.2 hfound.1) (staysIn_refuseSince hstart)

theorem staysIn_nameChars (fuel : Nat) (before : List Char) :
    (nameChars fuel before).StaysIn written fun _ => True := by
  induction fuel generalizing before with
  | zero => exact staysIn_refuseHere
  | succ fuel ih =>
    refine staysIn_next?.bind fun c? _ => ?_
    split
    · exact staysIn_refuseHere
    · exact staysIn_pure trivial
    · exact staysIn_ite (staysIn_bump.bind fun _ _ => ih _) staysIn_refuseSign

theorem staysIn_groupName : groupName.StaysIn written fun _ => True := by
  refine staysIn_here.bind fun start hstart => staysIn_remaining.bind fun _ _ =>
    (staysIn_nameChars _ _).bind fun name _ => staysIn_here.bind fun stop hstop =>
      staysIn_bump.bind fun _ _ => staysIn_when (staysIn_refuse ⟨hstart, hstart⟩) ?_
  have hspan : Span.IsIn written ⟨start, stop⟩ := ⟨hstart, hstop⟩
  refine staysIn_get.bind fun cursor hcursor => ?_
  split
  next earlier hlookup =>
    exact staysIn_throw ⟨hspan, by
      rintro _ ⟨⟩
      exact hcursor.names _ (mem_of_lookup_eq_some hlookup)⟩
  next =>
    exact staysIn_modify fun cursor hcursor =>
      ⟨hcursor.place, List.forall_mem_cons.mpr ⟨hspan, hcursor.names⟩⟩

theorem staysIn_flagItem (c : Char) : (flagItem c).StaysIn written fun _ => True := by
  refine staysIn_ite (staysIn_pure trivial) ?_
  split
  · exact staysIn_pure trivial
  · exact staysIn_refuseSign

theorem staysIn_flagItems (fuel : Nat) {before : List (FlagItem × Span)}
    (hbefore : ∀ entry ∈ before, entry.2.IsIn written) :
    (flagItems fuel before).StaysIn written fun items => ∀ entry ∈ items, entry.2.IsIn written := by
  induction fuel generalizing before with
  | zero => exact staysIn_pure hbefore
  | succ fuel ih =>
    refine staysIn_next?.bind fun c? _ => ?_
    cases c? with
    | none => exact staysIn_refuseHere
    | some c =>
      refine staysIn_ite (staysIn_pure hbefore) ((staysIn_flagItem c).bind fun item _ =>
        staysIn_signSpan.bind fun span hspan => ?_)
      split
      next earlier hlookup =>
        exact staysIn_throw ⟨hspan, by
          rintro _ ⟨⟩
          exact hbefore _ (mem_of_lookup_eq_some hlookup)⟩
      next =>
        exact staysIn_bump.bind fun _ _ => ih (List.forall_mem_cons.mpr ⟨hspan, hbefore⟩)

theorem staysIn_flagList : flagList.StaysIn written fun _ => True := by
  refine staysIn_remaining.bind fun _ _ =>
    (staysIn_flagItems _ (List.forall_mem_nil _)).bind fun items hitems => ?_
  split
  next => exact staysIn_refuse (hitems _ List.mem_cons_self)
  next => exact staysIn_pure trivial

theorem staysIn_lookAround? : lookAround?.StaysIn written fun _ => True := by
  refine staysIn_forIn_return (fun form _ => ?_) (staysIn_pure trivial)
  refine (staysIn_word? form).bind fun _ _ => ?_
  exact staysIn_ite (staysIn_pure fun _ _ => trivial) (staysIn_pure nofun)

theorem staysIn_openGroup : openGroup.StaysIn written (·.IsIn written) := by
  refine staysIn_signSpan.bind fun opening hopening => staysIn_skip.bind fun _ _ =>
    staysIn_lookAround?.bind fun _ _ => staysIn_when (staysIn_refuseSince hopening.1) ?_
  have hnamed : Scan.StaysIn written (Opened.IsIn written) (do
      groupName
      return .group opening true []) :=
    staysIn_groupName.bind fun _ _ => staysIn_pure hopening
  refine staysIn_here.bind fun inner hinner => (staysIn_word? _).bind fun _ _ =>
    staysIn_ite hnamed ((staysIn_word? _).bind fun _ _ => staysIn_ite hnamed
      ((staysIn_word? _).bind fun _ _ => staysIn_ite ?_ (staysIn_pure hopening)))
  refine staysIn_next?.bind fun _ _ => staysIn_when (staysIn_refuse hopening) ?_
  refine staysIn_flagList.bind fun found _ => staysIn_next?.bind fun _ _ =>
    staysIn_bump.bind fun _ _ => staysIn_ite (staysIn_pure hopening) (staysIn_ite ?_ ?_)
  · exact staysIn_refuse ⟨hinner, hinner⟩
  · exact staysIn_here.bind fun stop hstop => staysIn_pure ⟨hopening.1, hstop⟩

theorem staysIn_setVerbose (found : Flags) : (setVerbose found).StaysIn written fun _ => True :=
  staysIn_modify_verbose _

theorem staysInFrom_single (c : Char) : (single c).StaysInFrom written c (·.IsIn written) := by
  by_cases hc : c = '\\'
  · subst hc
    exact staysInFrom_escape.bind fun _ hspan => staysIn_pure (IsIn.ofSpans rfl hspan nofun)
  · refine StaysIn.from ?_
    rw [single, if_neg hc]
    refine staysIn_ite (staysIn_bracketed.bind fun set hset => staysIn_pure hset) ?_
    exact staysIn_signSpan.bind fun span hspan => staysIn_bump.bind fun _ _ =>
      staysIn_pure (IsIn.ofSpans rfl hspan nofun)

/-- Each round reads one part, and leaves behind it a level and open groups that stand in the
pattern as those in front of it did. -/
theorem staysIn_patternRest (fuel : Nat) {level : Level} {groups : List OpenGroup}
    (hlevel : level.IsIn written) (hgroups : ∀ group ∈ groups, group.IsIn written) :
    (patternRest fuel level groups).StaysIn written (·.IsIn written) := by
  induction fuel generalizing level groups with
  | zero => exact staysIn_refuseHere
  | succ fuel ih =>
    refine staysIn_settle.bind fun _ _ => staysIn_next?_bind ?_ fun c => ?_
    · cases groups with
      | nil => exact staysIn_here.bind fun stop hstop => staysIn_pure (hlevel.whole hstop)
      | cons inner _ => exact staysIn_refuse (hgroups inner List.mem_cons_self).opening
    · split
      next heq => cases heq
      next =>
        refine (staysIn_openGroup.bind fun opened hopened => ?_).from
        cases opened with
        | alone span found =>
          exact (staysIn_setVerbose found).bind fun _ _ =>
            ih (hlevel.push (IsIn.ofSpans rfl hopened nofun)) hgroups
        | group opening captures found =>
          exact staysIn_get.bind fun cursor _ => (staysIn_setVerbose found).bind fun _ _ =>
            staysIn_here.bind fun start hstart =>
              ih (.opened hstart) (List.forall_mem_cons.mpr ⟨⟨hopened, hlevel⟩, hgroups⟩)
      next =>
        refine StaysIn.from ?_
        cases groups with
        | nil => exact staysIn_refuseSign
        | cons inner groups =>
          obtain ⟨hinner, hrest⟩ := List.forall_mem_cons.mp hgroups
          refine staysIn_here.bind fun stop hstop => staysIn_bump.bind fun _ _ =>
            (staysIn_modify_verbose _).bind fun _ _ =>
              staysIn_here.bind fun behind hbehind => ih (hinner.around.push ?_) hrest
          exact IsIn.ofSpans rfl ⟨hinner.opening.1, hbehind⟩ (hlevel.whole hstop)
      next heq =>
        cases heq
        intro cursor hcursor hhead
        have hbehind := hcursor.advanced.placeIsIn
        rw [Cursor.place_advanced hhead] at hbehind
        rw [endsIn_here_bind, endsIn_bump_bind]
        exact ih (hlevel.branched hcursor.placeIsIn hbehind) hgroups _ hcursor.advanced
      next => exact ((staysIn_signRepetition hlevel).bind fun _ hnext => ih hnext hgroups).from
      next => exact ((staysIn_signRepetition hlevel).bind fun _ hnext => ih hnext hgroups).from
      next => exact ((staysIn_signRepetition hlevel).bind fun _ hnext => ih hnext hgroups).from
      next => exact ((staysIn_countedRepetition hlevel).bind fun _ hnext => ih hnext hgroups).from
      next heq =>
        cases heq
        exact (staysInFrom_single _).bind fun _ hpart => ih (hlevel.push hpart) hgroups

/-- What a text is read as stands in it, and so does what it is refused for. -/
theorem parse_isIn (written : List Char) :
    match parse written with
    | .ok pattern => pattern.IsIn written
    | .error refusal => refusal.IsIn written := by
  have hstart := Cursor.IsIn.start written
  have hend := staysIn_patternRest (written.length + 1) (.opened hstart.placeIsIn)
    (List.forall_mem_nil _) _ hstart
  unfold EndsIn at hend
  have hparse : parse written = ((patternRest (written.length + 1) {} []).run
    { rest := written }).map (·.1) := rfl
  rw [hparse]
  split at hend
  next hrun =>
    rw [hrun]
    exact hend.1
  next hrun =>
    rw [hrun]
    exact hend

end VisualNovel.Pattern
