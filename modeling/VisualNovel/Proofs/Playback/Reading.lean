/-
# Reading to the end

A player who only goes on, and neither chooses nor goes to another place, stays on the branch that
was chosen last. So it is known beforehand what there is to read: the units behind the position that
belong to no branch or to that one, in the order of the story.

Going on does not know it beforehand. It looks for one unit at a time, from a position that moves,
and looks up the branch again for every unit it meets. This module shows that it leads through these
units all the same, from any position and whatever was answered before: none of them is passed over,
none is read twice, and behind the last one going on changes nothing, however often it is tried.
-/

import VisualNovel.Proofs.Playback.Route

namespace VisualNovel.Timeline

variable {timeline next : Timeline}

/-- What is left to read: the units behind the position that belong to no branch or to the one that
was chosen last, each with its own position. -/
def ahead (timeline : Timeline) : List (StoryUnit × Nat) :=
  ((timeline.units.drop (timeline.index + 1)).zipIdx (timeline.index + 1)).filter fun (unit, _) =>
    unit.branch = 0 ∨ timeline.chosen? = some unit.branch

/-- The timeline at another position, with the same answers. -/
def movedTo (timeline : Timeline) (position : Nat) : Timeline := { timeline with index := position }

/-- The timeline when everything is read. -/
def atEnd (timeline : Timeline) : Timeline :=
  timeline.movedTo ((timeline.ahead.getLast?.map (·.2)).getD timeline.index)

/-- What going on a number of times in a row gives: each time the unit come to, if there is one, and
the timeline then. -/
def readOn (timeline : Timeline) : Nat → List (Option StoryUnit × Timeline)
  | 0 => []
  | count + 1 =>
    let next := timeline.after .advance
    (timeline.advance?.bind (·.current?), next) :: next.readOn count

/-- The units left to read are those that are played. -/
theorem ahead_eq (timeline : Timeline) :
    timeline.ahead =
      ((timeline.units.drop (timeline.index + 1)).zipIdx (timeline.index + 1)).filter
        fun stop => timeline.plays stop.1 := by
  refine List.filter_congr fun stop _ => ?_
  rw [plays, Bool.eq_iff_iff, Bool.or_eq_true, beq_iff_eq, beq_iff_eq]
  exact decide_eq_true_iff

theorem length_ahead_le (timeline : Timeline) :
    timeline.ahead.length ≤ timeline.units.length - 1 - timeline.index := by
  have hle := List.length_filter_le (fun stop => timeline.plays stop.1)
    ((timeline.units.drop (timeline.index + 1)).zipIdx (timeline.index + 1))
  rw [List.length_zipIdx, List.length_drop] at hle
  rw [ahead_eq]
  omega

/-- The first element that satisfies a condition cuts what is before it off the elements that do. -/
theorem filter_zipIdx_of_findIdx?_eq_some {α : Type} {p : α → Bool} {list : List α} {offset : Nat}
    (start : Nat) (hfirst : list.findIdx? p = some offset) :
    ∃ first, list[offset]? = some first ∧
      (list.zipIdx start).filter (fun element => p element.1) =
        (first, start + offset) ::
          ((list.drop (offset + 1)).zipIdx (start + offset + 1)).filter fun element =>
            p element.1 := by
  induction list generalizing start offset with
  | nil => cases hfirst
  | cons head rest ih =>
    rw [List.findIdx?_cons] at hfirst
    by_cases hhead : p head
    · rw [if_pos hhead] at hfirst
      cases hfirst
      exact ⟨head, rfl, List.filter_cons_of_pos hhead⟩
    · rw [if_neg hhead, Option.map_eq_some_iff] at hfirst
      obtain ⟨behind, hbehind, rfl⟩ := hfirst
      obtain ⟨first, hget, hfilter⟩ := ih (start + 1) hbehind
      refine ⟨first, hget, ?_⟩
      rw [List.zipIdx_cons, List.filter_cons_of_neg (by simpa using hhead), hfilter,
        List.drop_succ_cons, Nat.add_right_comm, Nat.add_assoc start behind 1]

/-- Where going on leads nowhere, nothing is left to read. -/
theorem ahead_of_advance?_eq_none (hend : timeline.advance? = none) : timeline.ahead = [] := by
  rw [advance?, Option.map_eq_none_iff, nextInBranch?, Option.map_eq_none_iff,
    List.findIdx?_eq_none_iff] at hend
  rw [ahead_eq, List.filter_eq_nil_iff]
  intro stop hstop
  rw [hend stop.1 (List.fst_mem_of_mem_zipIdx hstop)]
  exact Bool.false_ne_true

/-- Where going on leads somewhere, that is to the first unit left to read, and the others are left
to read there. -/
theorem ahead_of_advance?_eq_some (hadvance : timeline.advance? = some next) :
    ∃ unit position, next = timeline.movedTo position ∧ next.current? = some unit ∧
      timeline.ahead = (unit, position) :: next.ahead := by
  rw [advance?, Option.map_eq_some_iff] at hadvance
  obtain ⟨position, hposition, rfl⟩ := hadvance
  rw [nextInBranch?, Option.map_eq_some_iff] at hposition
  obtain ⟨offset, hoffset, rfl⟩ := hposition
  obtain ⟨unit, hunit, hahead⟩ := filter_zipIdx_of_findIdx?_eq_some (timeline.index + 1) hoffset
  rw [List.getElem?_drop] at hunit
  refine ⟨unit, _, rfl, hunit, ?_⟩
  rw [ahead_eq, hahead, ahead_eq, List.drop_drop]
  rfl

theorem atEnd_of_ahead_eq_nil (hahead : timeline.ahead = []) : timeline.atEnd = timeline := by
  rw [atEnd, hahead]
  rfl

theorem atEnd_movedTo {unit : StoryUnit} {position : Nat}
    (hahead : timeline.ahead = (unit, position) :: (timeline.movedTo position).ahead) :
    (timeline.movedTo position).atEnd = timeline.atEnd := by
  rw [atEnd, atEnd, hahead, List.getLast?_cons]
  cases (timeline.movedTo position).ahead.getLast? <;> rfl

/-- However often a player goes on, from whatever position and with whatever answers: first each of
the units left to read is come to, in their order, and nothing changes but the position; then
nothing is come to any more, and nothing changes. The units left to read are no more than those
behind the position. -/
theorem readOn_eq (timeline : Timeline) (count : Nat) :
    timeline.readOn count =
        (timeline.ahead.map fun (unit, position) =>
            (some unit, timeline.movedTo position)).take count ++
          List.replicate (count - timeline.ahead.length) (none, timeline.atEnd) ∧
      timeline.ahead.length ≤ timeline.units.length - 1 - timeline.index := by
  refine ⟨?_, timeline.length_ahead_le⟩
  induction count generalizing timeline with
  | zero => rw [readOn, List.take_zero, Nat.zero_sub]; rfl
  | succ count ih =>
    cases hadvance : timeline.advance? with
    | none =>
      have hahead := ahead_of_advance?_eq_none hadvance
      have hrest := ih timeline
      rw [hahead, atEnd_of_ahead_eq_nil hahead, List.map_nil, List.take_nil, List.nil_append,
        List.length_nil, Nat.sub_zero] at hrest ⊢
      rw [readOn, after, hadvance, Option.getD_none, hrest, List.replicate_succ]
      rfl
    | some next =>
      obtain ⟨unit, position, rfl, hunit, hahead⟩ := ahead_of_advance?_eq_some hadvance
      rw [readOn, after, hadvance, Option.getD_some, Option.bind_some, hunit, ih,
        atEnd_movedTo hahead, hahead, List.map_cons, List.take_succ_cons, List.cons_append,
        List.length_cons, Nat.add_sub_add_right]
      rfl

/-- Behind a choice, the player reads what is on the branch chosen and what comes after it. -/
example :
    let timeline : Timeline :=
      { units := [{ kind := .choice }, { branch := 1 }, { branch := 2 }, {}], answers := [⟨0, 2⟩] }
    (timeline.readOn 4).map (·.2.index) = [2, 3, 3, 3] := rfl

end VisualNovel.Timeline
