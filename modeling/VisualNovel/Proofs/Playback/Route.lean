/-
# The route of a player

A player who chooses, goes on and goes back leaves a route: a position, and a branch for every
position at which one was chosen and not forgotten since. As a finite map this is easily told: a
choice sets the entry at the position, going on changes no entry, and going to another position
deletes the entries from there on. The branch in force is the entry furthest on.

The timeline has no such map. It keeps a list of answers and never looks at more than the front of
it: a choice is compared with the last answer only, and going back drops answers until one comes
before the position. This module shows that the list is the map, after any sequence of moves. What
carries the proof is that the answers stand in the order of their positions, none of which is ahead
of the player.
-/

import Std.Data.ExtTreeMap
import VisualNovel.Proofs.Playback.Playthrough

namespace VisualNovel

/-- What a player may do. -/
inductive Move
  | choose (branch : UInt32)
  | advance
  | seek (index : Nat)
  deriving DecidableEq, Repr

namespace Timeline

/-- The timeline after a move. Going on at the end of the story changes nothing. -/
def after (timeline : Timeline) : Move → Timeline
  | .choose branch => timeline.choose branch
  | .advance => timeline.advance?.getD timeline
  | .seek index => timeline.seek index

/-- The timeline after all of the moves. -/
def play (timeline : Timeline) (moves : List Move) : Timeline := moves.foldl after timeline

end Timeline

/-- A position in a story, and the branches chosen at positions of the story. -/
structure Route where
  index : Nat := 0
  choices : Std.ExtTreeMap Nat UInt32 := ∅

namespace Route

variable {units : List StoryUnit} {route : Route}

/-- The branch chosen at the greatest position at which one was chosen. -/
def chosen? (route : Route) : Option UInt32 := route.choices.maxKey?.bind (route.choices[·]?)

/-- Whether the unit belongs to no branch, or to the one that was chosen. -/
def plays (route : Route) (unit : StoryUnit) : Bool :=
  unit.branch == 0 || route.chosen? == some unit.branch

/-- The first position behind the present one whose unit is played. -/
def next? (units : List StoryUnit) (route : Route) : Option Nat :=
  (List.range units.length).find? fun index =>
    decide (route.index < index) && units[index]?.any route.plays

/-- The route through the units after a move. -/
def after (units : List StoryUnit) (route : Route) : Move → Route
  | .choose branch => { route with choices := route.choices.insert route.index branch }
  | .advance => { route with index := (route.next? units).getD route.index }
  | .seek index =>
    if units.isEmpty then route
    else
      let index := min index (units.length - 1)
      { index, choices := route.choices.filter fun position _ => decide (position < index) }

/-- The route through the units after all of the moves. -/
def play (units : List StoryUnit) (route : Route) (moves : List Move) : Route :=
  moves.foldl (after units) route

/-- The next position of a route is found as that of a timeline is. -/
theorem next?_eq_some_iff {position : Nat} :
    route.next? units = some position ↔
      route.index < position ∧
        (∃ unit, units[position]? = some unit ∧ route.plays unit) ∧
        ∀ index, route.index < index → index < position →
          ∀ unit, units[index]? = some unit → ¬ route.plays unit := by
  rw [next?, List.find?_range_eq_some, Bool.and_eq_true, decide_eq_true_eq, Option.any_eq_true]
  constructor
  · rintro ⟨⟨hlater, hplayed⟩, _, hbefore⟩
    refine ⟨hlater, hplayed, fun index hbehind hindex unit hunit => ?_⟩
    have hskipped := hbefore index hindex
    simpa [hbehind, hunit] using hskipped
  · rintro ⟨hlater, ⟨unit, hunit, hplays⟩, hbefore⟩
    obtain ⟨hlength, _⟩ := List.getElem?_eq_some_iff.mp hunit
    refine ⟨⟨hlater, unit, hunit, hplays⟩, List.mem_range.mpr hlength, fun index hindex => ?_⟩
    by_cases hbehind : route.index < index
    · have hinside : index < units.length := by omega
      have hskipped := hbefore index hbehind hindex units[index] (List.getElem?_eq_getElem hinside)
      simpa [hbehind, hinside] using hskipped
    · simp [hbehind]

end Route

namespace Timeline

variable {units : List StoryUnit} {timeline : Timeline} {route : Route}

/-- Where no answer comes before a later one, dropping answers from the front drops those from a
position on and no others. -/
theorem mem_dropWhile_iff {answers : List Answer}
    (hordered : answers.Pairwise fun later earlier => earlier.index < later.index) (start : Nat)
    (answer : Answer) :
    answer ∈ answers.dropWhile (fun answer => start ≤ answer.index) ↔
      answer ∈ answers ∧ answer.index < start := by
  induction answers with
  | nil => simp
  | cons last rest ih =>
    obtain ⟨hlast, hrest⟩ := List.pairwise_cons.mp hordered
    by_cases hdropped : start ≤ last.index
    · rw [List.dropWhile_cons_of_pos (by simpa using hdropped), ih hrest, List.mem_cons]
      constructor
      · rintro ⟨hmem, hbefore⟩
        exact ⟨.inr hmem, hbefore⟩
      · rintro ⟨rfl | hmem, hbefore⟩
        · omega
        · exact ⟨hmem, hbefore⟩
    · -- The first answer that stays comes before the position, and so does everything behind it.
      rw [List.dropWhile_cons_of_neg (by simpa using hdropped)]
      refine ⟨fun hmem => ⟨hmem, ?_⟩, And.left⟩
      rcases List.mem_cons.mp hmem with rfl | hbehind
      · omega
      · have hearlier := hlast answer hbehind
        omega

theorem dropWhile_eq_self_of_before {answers : List Answer} {start : Nat}
    (hbefore : ∀ answer ∈ answers, answer.index < start) :
    answers.dropWhile (fun answer => start ≤ answer.index) = answers := by
  cases answers with
  | nil => rfl
  | cons last rest =>
    have hlast := hbefore last List.mem_cons_self
    exact List.dropWhile_cons_of_neg (by simpa using hlast)

/-- Comparing with the last answer alone is enough to replace the one that was given at the
position. -/
theorem choose_eq_dropWhile
    (hordered : timeline.answers.Pairwise fun later earlier => earlier.index < later.index)
    (hpassed : ∀ answer ∈ timeline.answers, answer.index ≤ timeline.index) (branch : UInt32) :
    timeline.choose branch =
      { timeline with
        answers := ⟨timeline.index, branch⟩ ::
          timeline.answers.dropWhile fun answer => timeline.index ≤ answer.index } := by
  unfold choose
  cases hanswers : timeline.answers with
  | nil => rfl
  | cons last rest =>
    rw [hanswers] at hordered hpassed
    obtain ⟨hlast, _⟩ := List.pairwise_cons.mp hordered
    have hle := hpassed last List.mem_cons_self
    by_cases hhere : last.index = timeline.index
    · have hrest := dropWhile_eq_self_of_before (hhere ▸ hlast)
      rw [List.dropWhile_cons_of_pos (by simp [hhere]), hrest]
      simp only [if_pos hhere]
    · have hall : ∀ answer ∈ last :: rest, answer.index < timeline.index := by
        intro answer hmem
        rcases List.mem_cons.mp hmem with rfl | hbehind
        · omega
        · have hearlier := hlast answer hbehind
          omega
      simp only [if_neg hhere, dropWhile_eq_self_of_before hall]

/-- The timeline stands where the route does, and its answers are the entries of the route. They
stand in order, the latest first, and none is ahead of the position, which is in the story. -/
structure Records (units : List StoryUnit) (timeline : Timeline) (route : Route) : Prop where
  story : timeline.units = units
  position : timeline.index = route.index
  /-- What was answered at a position is the entry there, and nothing else is an entry. -/
  entries : ∀ index branch, ⟨index, branch⟩ ∈ timeline.answers ↔ route.choices[index]? = some branch
  ordered : timeline.answers.Pairwise fun later earlier => earlier.index < later.index
  passed : ∀ answer ∈ timeline.answers, answer.index ≤ timeline.index
  /-- Only in a story without units there is nothing at the position. -/
  inside : timeline.index < units.length ∨ units = [] ∧ timeline.index = 0

namespace Records

/-- A new timeline has recorded nothing. -/
theorem start (units : List StoryUnit) : Records units { units } {} := by
  constructor
  · rfl
  · rfl
  · simp
  · exact .nil
  · simp
  · cases units <;> simp

/-- The last answer is the entry furthest on. -/
theorem chosen?_eq (hrecords : Records units timeline route) :
    timeline.chosen? = route.chosen? := by
  have hentries := hrecords.entries
  have hordered := hrecords.ordered
  unfold Timeline.chosen? Route.chosen?
  cases hanswers : timeline.answers with
  | nil =>
    rw [hanswers] at hentries
    have hempty : route.choices = ∅ := by
      apply Std.ExtTreeMap.ext_getElem?
      intro index
      cases hentry : route.choices[index]? with
      | none => simp
      | some branch => simpa using (hentries index branch).mpr hentry
    rw [hempty, Std.ExtTreeMap.maxKey?_empty]
    rfl
  | cons last rest =>
    rw [hanswers] at hentries hordered
    have hlast : route.choices[last.index]? = some last.branch :=
      (hentries last.index last.branch).mp List.mem_cons_self
    have hgreatest : route.choices.maxKey? = some last.index := by
      rw [Std.ExtTreeMap.maxKey?_eq_some_iff_mem_and_forall]
      refine ⟨Std.ExtTreeMap.mem_iff_isSome_getElem?.mpr (Option.isSome_of_eq_some hlast), ?_⟩
      intro index hindex
      obtain ⟨branch, hentry⟩ :=
        Option.isSome_iff_exists.mp (Std.ExtTreeMap.mem_iff_isSome_getElem?.mp hindex)
      rw [Nat.isLE_compare]
      rcases List.mem_cons.mp ((hentries index branch).mpr hentry) with rfl | hbehind
      · exact Nat.le_refl _
      · exact Nat.le_of_lt ((List.pairwise_cons.mp hordered).1 _ hbehind)
    rw [hgreatest, Option.bind_some, hlast]
    rfl

/-- A choice sets the entry at the position. -/
theorem choose (hrecords : Records units timeline route) (branch : UInt32) :
    Records units (timeline.choose branch) (route.after units (.choose branch)) := by
  rw [choose_eq_dropWhile hrecords.ordered hrecords.passed]
  have hkept := mem_dropWhile_iff hrecords.ordered timeline.index
  constructor
  · exact hrecords.story
  · exact hrecords.position
  · intro index other
    have hmem := hrecords.entries index other
    simp only [Route.after, ← hrecords.position, Std.ExtTreeMap.getElem?_insert, List.mem_cons,
      hkept, Nat.compare_eq_eq]
    by_cases hhere : timeline.index = index
    · simp [hhere, eq_comm]
    · have hne : index ≠ timeline.index := Ne.symm hhere
      rw [if_neg hhere, ← hmem]
      simp only [Answer.mk.injEq, hne, false_and, false_or, and_iff_left_iff_imp]
      intro hanswer
      have hle := hrecords.passed _ hanswer
      simp only at hle
      omega
  · refine List.pairwise_cons.mpr ⟨fun answer hanswer => ((hkept answer).mp hanswer).2, ?_⟩
    exact hrecords.ordered.sublist (List.dropWhile_suffix _).sublist
  · intro answer hanswer
    rcases List.mem_cons.mp hanswer with rfl | hearlier
    · exact Nat.le_refl _
    · exact Nat.le_of_lt ((hkept answer).mp hearlier).2
  · exact hrecords.inside

/-- Going on leads to the same position and leaves the answers alone. -/
theorem advance (hrecords : Records units timeline route) :
    Records units (timeline.after .advance) (route.after units .advance) := by
  have hplays : timeline.plays = route.plays := by
    funext unit
    rw [Timeline.plays, Route.plays, hrecords.chosen?_eq]
  have hnext : timeline.nextInBranch? (timeline.index + 1) = route.next? units := by
    ext position
    rw [nextInBranch?_eq_some_iff, Route.next?_eq_some_iff, hrecords.story, hrecords.position,
      hplays]
    rfl
  rw [Timeline.after, advance?, hnext, Route.after]
  cases hposition : route.next? units with
  | none => exact hrecords
  | some position =>
    obtain ⟨hlater, ⟨unit, hunit, _⟩, _⟩ := Route.next?_eq_some_iff.mp hposition
    rw [← hrecords.position] at hlater
    constructor
    · exact hrecords.story
    · rfl
    · exact hrecords.entries
    · exact hrecords.ordered
    · intro answer hanswer
      exact Nat.le_trans (hrecords.passed answer hanswer) (Nat.le_of_lt hlater)
    · exact .inl (List.getElem?_eq_some_iff.mp hunit).1

/-- Going to a position deletes the entries from there on. -/
theorem seek (hrecords : Records units timeline route) (index : Nat) :
    Records units (timeline.seek index) (route.after units (.seek index)) := by
  rw [Timeline.seek, Route.after, hrecords.story]
  by_cases hempty : units.isEmpty = true
  · rw [if_pos hempty, if_pos hempty]
    exact hrecords
  · rw [if_neg hempty, if_neg hempty]
    have hlength : 0 < units.length := by
      cases units with
      | nil => exact absurd rfl hempty
      | cons => exact Nat.succ_pos _
    have hkept := mem_dropWhile_iff hrecords.ordered (min index (units.length - 1))
    constructor
    · rfl
    · rfl
    · intro position branch
      rw [hkept, hrecords.entries, Std.ExtTreeMap.getElem?_filter', Option.filter_eq_some_iff,
        decide_eq_true_eq]
    · exact hrecords.ordered.sublist (List.dropWhile_suffix _).sublist
    · intro answer hanswer
      exact Nat.le_of_lt ((hkept answer).mp hanswer).2
    · refine .inl ?_
      change min index (units.length - 1) < units.length
      omega

/-- Every move is the same on the timeline as on the route. -/
theorem after (hrecords : Records units timeline route) (move : Move) :
    Records units (timeline.after move) (route.after units move) := by
  cases move with
  | choose branch => exact hrecords.choose branch
  | advance => exact hrecords.advance
  | seek index => exact hrecords.seek index

/-- By induction on the moves, so is every sequence of them. -/
theorem play (hrecords : Records units timeline route) (moves : List Move) :
    Records units (timeline.play moves) (route.play units moves) := by
  induction moves generalizing timeline route with
  | nil => exact hrecords
  | cons move rest ih => exact ih (hrecords.after move)

end Records

/-- Whatever moves are made on a new timeline, it stands where the route stands and its answers are
the entries of the route: one at most for a position, in the order of the positions and none of them
ahead, and the branch in force is the entry furthest on. -/
theorem records_play (units : List StoryUnit) (moves : List Move) :
    Records units (play { units } moves) (Route.play units {} moves) ∧
      (play { units } moves).chosen? = (Route.play units {} moves).chosen? := by
  have hrecords := (Records.start units).play moves
  exact ⟨hrecords, hrecords.chosen?_eq⟩

/-- Going back to a position between two choices brings the first one back into force. -/
example :
    (play { units := List.replicate 4 {} }
      [.choose 1, .advance, .advance, .choose 2, .seek 1]).chosen? = some 1 := rfl

end Timeline
end VisualNovel
