/-
# The cast slot by slot

A cast is a list, but what matters about it is who stands in which slot. This module reads a cast
in that way: the positions in their order, and for each slot what is seen there, which is everything
about the character but whether it is lit. Every operation on casts has one law for each reading.

Who is lit is left out of the second reading because lighting never decides what a later directive
or row sees.
-/

import VisualNovel.Proofs.Staging.Calls
import Mathlib.Data.List.Nodup

namespace VisualNovel

open Script

/-- What a call settles about a character: everything but the slot, the light and the effects. -/
structure Appearance where
  id : UInt64
  face : String
  signal : Bool
  model : String
  deriving DecidableEq, Repr

/-- What was settled about the character by the last call. -/
def StagedCharacter.appearance (character : StagedCharacter) : Appearance :=
  { id := character.id
    face := character.face
    signal := character.signal
    model := character.model }

/-- The appearance that a call by the name and with the face gives a character, if the tables know
the name and the character it stands for. -/
def StagingContext.appearance? (context : StagingContext) (name face : List Char) :
    Option Appearance :=
  (context.tables.characterId? (String.ofList (Parameter.text (some name)))).bind fun id =>
    (context.tables.character? id).map fun record =>
      { id
        face := String.ofList (Parameter.text (some face))
        signal := record.isSignal
        model := context.url .characterModel record.prefab }

namespace Cast

variable {cast next : List StagedCharacter} {position : UInt8}

/-- The numbers of the slots in which somebody stands, in the order of the cast. -/
def positions (cast : List StagedCharacter) : List UInt8 := cast.map (·.position)

/-- Nobody shares a slot, and everybody stands in one of the five. -/
structure WellPlaced (cast : List StagedCharacter) : Prop where
  distinct : (positions cast).Nodup
  inRange : ∀ position ∈ positions cast, 1 ≤ position ∧ position ≤ 5

theorem wellPlaced_nil : WellPlaced [] := ⟨List.nodup_nil, by simp [positions]⟩

theorem WellPlaced.of_positions_eq (hplaced : WellPlaced cast)
    (hsame : positions next = positions cast) : WellPlaced next :=
  ⟨hsame ▸ hplaced.distinct, hsame ▸ hplaced.inRange⟩

theorem holds_iff_mem_positions : holds cast position = true ↔ position ∈ positions cast := by
  simp [holds, positions]

/-- Somebody may step into a free slot. -/
theorem WellPlaced.concat (hplaced : WellPlaced cast) {character : StagedCharacter}
    (hfree : holds cast character.position = false)
    (hrange : 1 ≤ character.position ∧ character.position ≤ 5) :
    WellPlaced (cast ++ [character]) := by
  have hnew : character.position ∉ positions cast := by
    rw [← holds_iff_mem_positions, hfree]
    exact Bool.false_ne_true
  have happend : positions (cast ++ [character]) = positions cast ++ [character.position] := by
    simp [positions]
  constructor
  · rw [happend, List.nodup_append]
    refine ⟨hplaced.distinct, List.nodup_singleton _, ?_⟩
    rintro first hfirst second hsecond rfl
    rw [List.mem_singleton] at hsecond
    exact hnew (hsecond ▸ hfirst)
  · intro position hposition
    rw [happend, List.mem_append, List.mem_singleton] at hposition
    rcases hposition with hold | rfl
    · exact hplaced.inRange position hold
    · exact hrange

theorem positions_map {change : StagedCharacter → StagedCharacter}
    (hkeeps : ∀ character, (change character).position = character.position) :
    positions (cast.map change) = positions cast := by
  simp [positions, Function.comp_def, hkeeps]

/-- A change in a slot moves nobody if the changed character stays in that slot. -/
theorem positions_modifyAt {change : StagedCharacter → StagedCharacter}
    (hstays : ∀ character, character.position = position → (change character).position = position) :
    positions (modifyAt position change cast) = positions cast := by
  induction cast with
  | nil => rfl
  | cons first rest ih =>
    rw [modifyAt]
    by_cases hfirst : first.position = position
    · rw [if_pos hfirst]
      simp [positions, hstays first hfirst, hfirst]
    · rw [if_neg hfirst]
      simpa [positions] using ih

theorem positions_lit : positions (lit cast) = positions cast := by
  unfold lit
  split
  · rfl
  · exact positions_map fun _ => rfl

theorem positions_dimOthers : positions (dimOthers position cast) = positions cast :=
  positions_map fun character => by split <;> rfl

theorem WellPlaced.place (hplaced : WellPlaced cast) {character : StagedCharacter}
    (hrange : 1 ≤ character.position ∧ character.position ≤ 5) :
    WellPlaced (place cast character) := by
  unfold Cast.place
  by_cases hheld : holds cast character.position = true
  · rw [if_pos hheld]
    exact hplaced.of_positions_eq (positions_modifyAt fun _ _ => rfl)
  · rw [if_neg hheld]
    exact hplaced.concat (by simpa using hheld) hrange

/-- Whoever is brought back stands where the character was looked for. -/
theorem position_lastOccupant? {earlier : List StoryUnit} {count : Nat} {last : StagedCharacter}
    (hlast : lastOccupant? earlier count position = some last) : last.position = position := by
  obtain ⟨unit, _, hunit⟩ := List.exists_of_findSome?_eq_some hlast
  simpa using List.find?_some hunit

theorem WellPlaced.occupied? {scene : Scene} {slot : Slot} (hplaced : WellPlaced cast)
    (hnext : occupied? scene cast slot.position = some next) : WellPlaced next := by
  unfold Cast.occupied? at hnext
  by_cases hheld : holds cast slot.position = true
  · rw [if_pos hheld] at hnext
    cases hnext
    exact hplaced
  · rw [if_neg hheld] at hnext
    obtain ⟨last, hlast, rfl⟩ := Option.map_eq_some_iff.mp hnext
    have hposition : last.position = slot.position := position_lastOccupant? hlast
    apply hplaced.concat
    · simpa [StagedCharacter.atRest, hposition] using hheld
    · simpa [StagedCharacter.atRest, hposition] using slot.position_mem_range

/-- No directive puts two characters into one slot, or anybody outside the five slots. Whom the
units before have on stage does not matter for this. -/
theorem WellPlaced.of_after {scene : Scene} {directive : Directive} (hplaced : WellPlaced cast)
    (hnext : after scene cast directive = .ok next) : WellPlaced next := by
  cases directive with
  | characterEffect slot kind name async =>
    simp only [after, animate] at hnext
    split at hnext
    · cases hnext
    · rename_i middle hmiddle
      cases hnext
      exact (hplaced.occupied? hmiddle).of_positions_eq (positions_modifyAt fun _ h => h)
  | character slot name face talk =>
    simp only [after, call] at hnext
    cases hcalled : called scene (String.ofList (Parameter.text (some name))) with
    | error fault =>
      rw [hcalled] at hnext
      cases hnext
    | ok pair =>
      rw [hcalled] at hnext
      cases hnext
      split
      · exact (hplaced.place slot.position_mem_range).of_positions_eq positions_dimOthers
      · exact hplaced.place slot.position_mem_range
  | _ =>
    cases hnext
    exact hplaced

/-- Whoever stands in the slot. -/
def occupant? (cast : List StagedCharacter) (position : UInt8) : Option StagedCharacter :=
  cast.find? (·.position == position)

/-- What is seen in the slot: the appearance of whoever stands there, and the effects. -/
def seen? (cast : List StagedCharacter) (position : UInt8) :
    Option (Appearance × List CharacterEffect) :=
  (occupant? cast position).map fun character => (character.appearance, character.effects)

/-- Where slots are not shared, whoever is in the cast is found in the slot. -/
theorem WellPlaced.occupant?_eq_some_iff (hplaced : WellPlaced cast) {character : StagedCharacter} :
    occupant? cast position = some character ↔
      character ∈ cast ∧ character.position = position := by
  constructor
  · intro hfound
    exact ⟨List.mem_of_find?_eq_some hfound, by simpa using List.find?_some hfound⟩
  · rintro ⟨hmem, rfl⟩
    have hsome : (occupant? cast character.position).isSome := by
      rw [occupant?, List.find?_isSome]
      exact ⟨character, hmem, by simp⟩
    obtain ⟨found, hfound⟩ := Option.isSome_iff_exists.mp hsome
    have hposition : found.position = character.position := by simpa using List.find?_some hfound
    rw [hfound, List.inj_on_of_nodup_map hplaced.distinct (List.mem_of_find?_eq_some hfound) hmem
      hposition]

theorem isSome_seen?_iff :
    (seen? cast position).isSome ↔ ∃ character ∈ cast, character.position = position := by
  simp [seen?, occupant?]

theorem holds_eq_isSome_seen? : holds cast position = (seen? cast position).isSome := by
  rw [Bool.eq_iff_iff, isSome_seen?_iff]
  simp [holds]

/-- Where slots are not shared, whoever is in the cast is seen in the slot. -/
theorem WellPlaced.seen?_eq_some (hplaced : WellPlaced cast) {character : StagedCharacter}
    (hmem : character ∈ cast) :
    seen? cast character.position = some (character.appearance, character.effects) := by
  rw [seen?, hplaced.occupant?_eq_some_iff.mpr ⟨hmem, rfl⟩]
  rfl

theorem occupant?_map {change : StagedCharacter → StagedCharacter}
    (hkeeps : ∀ character, (change character).position = character.position) :
    occupant? (cast.map change) position = (occupant? cast position).map change := by
  have hsame : (·.position == position) ∘ change = (·.position == position) := by
    funext character
    rw [Function.comp_apply, hkeeps]
  rw [occupant?, List.find?_map, hsame, occupant?]

theorem occupant?_concat {character : StagedCharacter} :
    occupant? (cast ++ [character]) position =
      (occupant? cast position).or
        (if character.position = position then some character else none) := by
  by_cases hposition : character.position = position <;>
    simp [occupant?, List.find?_append, hposition]

theorem occupant?_modifyAt {change : StagedCharacter → StagedCharacter} {other : UInt8}
    (hstays : ∀ character, character.position = position → (change character).position = position) :
    occupant? (modifyAt position change cast) other =
      if other = position then (occupant? cast position).map change
      else occupant? cast other := by
  induction cast with
  | nil => simp [modifyAt, occupant?]
  | cons first rest ih =>
    simp only [occupant?] at ih
    rw [modifyAt]
    by_cases hfirst : first.position = position
    · rw [if_pos hfirst]
      have hchanged := hstays first hfirst
      by_cases hother : other = position
      · subst hother
        simp [occupant?, hfirst, hchanged]
      · simp [occupant?, hfirst, hchanged, hother, Ne.symm hother]
    · rw [if_neg hfirst]
      by_cases hother : other = position
      · subst hother
        simpa [occupant?, hfirst] using ih
      · by_cases hhere : first.position = other
        · simp [occupant?, hhere, hother]
        · simpa [occupant?, hhere, hother] using ih

/-- Lighting changes nothing about what is seen. -/
theorem seen?_map {change : StagedCharacter → StagedCharacter}
    (hposition : ∀ character, (change character).position = character.position)
    (happearance : ∀ character, (change character).appearance = character.appearance)
    (heffects : ∀ character, (change character).effects = character.effects) :
    seen? (cast.map change) position = seen? cast position := by
  simp [seen?, occupant?_map hposition, Function.comp_def, happearance, heffects]

@[simp]
theorem seen?_lit : seen? (lit cast) position = seen? cast position := by
  unfold lit
  split
  · rfl
  · exact seen?_map (fun _ => rfl) (fun _ => rfl) fun _ => rfl

@[simp]
theorem seen?_dimOthers {slot : UInt8} :
    seen? (dimOthers slot cast) position = seen? cast position := by
  apply seen?_map <;> intro character <;> split <;> rfl

/-- A character who is called takes the slot and inherits the effects of the one before. -/
theorem seen?_place {character : StagedCharacter} {other : UInt8} :
    seen? (place cast character) other =
      if other = character.position then
        some (character.appearance, ((seen? cast other).map (·.2)).getD character.effects)
      else seen? cast other := by
  unfold place
  by_cases hheld : holds cast character.position = true
  · have hstays (before : StagedCharacter) (_ : before.position = character.position) :
        ({ character with effects := before.effects } : StagedCharacter).position =
          character.position := rfl
    rw [if_pos hheld, seen?, occupant?_modifyAt hstays]
    by_cases hother : other = character.position
    · subst hother
      rw [holds_eq_isSome_seen?] at hheld
      obtain ⟨before, hbefore⟩ := Option.isSome_iff_exists.mp hheld
      obtain ⟨old, hold, rfl⟩ := Option.map_eq_some_iff.mp hbefore
      rw [if_pos rfl, if_pos rfl, hbefore, hold]
      rfl
    · rw [if_neg hother, if_neg hother, seen?]
  · rw [if_neg hheld, seen?, occupant?_concat]
    have hfree : seen? cast character.position = none := by
      simpa [holds_eq_isSome_seen?] using hheld
    by_cases hother : other = character.position
    · subst hother
      have hnobody : occupant? cast character.position = none := by
        simpa [seen?] using hfree
      simp [hfree, hnobody]
    · simp [seen?, hother, Ne.symm hother]

/-- Animating whoever stands in the slot adds the effect there and is not seen elsewhere. -/
theorem seen?_modifyAt_effects {effect : CharacterEffect} {other : UInt8} :
    seen? (modifyAt position
        (fun character => { character with effects := character.effects ++ [effect] }) cast) other =
      if other = position then (seen? cast position).map fun seen => (seen.1, seen.2 ++ [effect])
      else seen? cast other := by
  have hstays (character : StagedCharacter) (hposition : character.position = position) :
      ({ character with effects := character.effects ++ [effect] } : StagedCharacter).position =
        position := hposition
  rw [seen?, occupant?_modifyAt hstays]
  split
  · simp only [seen?, Option.map_map]
    rfl
  · rfl

/-- What was seen of whoever stood in the slot last in an earlier unit. -/
def lastSeen? (earlier : List StoryUnit) (count : Nat) (position : UInt8) : Option Appearance :=
  (lastOccupant? earlier count position).map (·.appearance)

variable {scene : Scene} {slot : Slot}

/-- A call by a name that the tables do not know fails. -/
theorem after_character_of_unknownName {name face : List Char} {talk : Parameter}
    (hunknown : scene.tables.characterId? (String.ofList (Parameter.text (some name))) = none) :
    after scene cast (.character slot name face talk) =
      .error (scene.error (.unknownName (String.ofList (Parameter.text (some name))))) := by
  simp only [after, call, called, hunknown]
  rfl

/-- A call by a name that stands for no character fails. -/
theorem after_character_of_unknownCharacter {name face : List Char} {talk : Parameter} {id : UInt64}
    (hid : scene.tables.characterId? (String.ofList (Parameter.text (some name))) = some id)
    (hunknown : scene.tables.character? id = none) :
    after scene cast (.character slot name face talk) =
      .error (scene.error (.unknownCharacter id)) := by
  simp only [after, call, called, hid, hunknown]
  rfl

/-- A call that succeeds gives its slot the appearance it settles, keeps the effects that are there
already, and changes nothing in any other slot. -/
theorem after_character_of_known (cast : List StagedCharacter) (slot : Slot) (talk : Parameter)
    {name face : List Char} {shown : Appearance}
    (hshown : scene.appearance? name face = some shown) :
    ∃ next, after scene cast (.character slot name face talk) = .ok next ∧
      ∀ position, seen? next position =
        if position = slot.position then some (shown, ((seen? cast position).map (·.2)).getD [])
        else seen? cast position := by
  obtain ⟨id, hid, hmap⟩ := Option.bind_eq_some_iff.mp hshown
  obtain ⟨record, hrecord, rfl⟩ := Option.map_eq_some_iff.mp hmap
  have hcalled : called scene (String.ofList (Parameter.text (some name))) = .ok (id, record) := by
    simp only [called, hid, hrecord]
  simp only [after, call, hcalled]
  refine ⟨_, rfl, fun position => ?_⟩
  split <;> simp only [seen?_dimOthers, seen?_place] <;> rfl

/-- An effect in a slot in which nobody has ever stood fails. -/
theorem after_characterEffect_of_empty {kind name : List Char} {async : Parameter}
    (hfree : seen? cast slot.position = none)
    (hnever : lastSeen? scene.earlier scene.index slot.position = none) :
    after scene cast (.characterEffect slot kind name async) =
      .error (scene.error (.emptySlot slot.position)) := by
  have hheld : holds cast slot.position = false := by
    rw [holds_eq_isSome_seen?, hfree]
    rfl
  have hlast : lastOccupant? scene.earlier scene.index slot.position = none :=
    Option.map_eq_none_iff.mp hnever
  simp only [after, animate, occupied?, hheld, hlast]
  rfl

/-- Whoever is brought back is seen as before and has no effect. -/
theorem occupied?_of_seen {shown : Appearance} {effects : List CharacterEffect}
    (hshown : (seen? cast slot.position).or
      ((lastSeen? scene.earlier scene.index slot.position).map (·, [])) = some (shown, effects)) :
    ∃ next, occupied? scene cast slot.position = some next ∧
      ∀ position, seen? next position =
        if position = slot.position then some (shown, effects) else seen? cast position := by
  unfold occupied?
  by_cases hheld : holds cast slot.position = true
  · rw [if_pos hheld]
    refine ⟨cast, rfl, fun position => ?_⟩
    rw [holds_eq_isSome_seen?] at hheld
    rw [Option.or_of_isSome hheld] at hshown
    by_cases hhere : position = slot.position
    · rw [if_pos hhere, hhere, hshown]
    · rw [if_neg hhere]
  · rw [if_neg hheld]
    have hfree : seen? cast slot.position = none := by
      simpa [holds_eq_isSome_seen?] using hheld
    rw [hfree, Option.none_or, lastSeen?, Option.map_map] at hshown
    obtain ⟨last, hlast, hpair⟩ := Option.map_eq_some_iff.mp hshown
    cases hpair
    have hposition := position_lastOccupant? hlast
    refine ⟨_, by rw [hlast]; rfl, fun position => ?_⟩
    rw [seen?, occupant?_concat]
    by_cases hhere : position = slot.position
    · subst hhere
      have hnobody : occupant? cast slot.position = none := Option.map_eq_none_iff.mp hfree
      simp [hnobody, StagedCharacter.atRest, hposition, StagedCharacter.appearance]
    · simp [seen?, StagedCharacter.atRest, hposition, hhere, Ne.symm hhere]

/-- An effect in a slot in which somebody stands, or has stood, is added there. Whoever is brought
back for it has no other effect. -/
theorem after_characterEffect_of_seen (kind name : List Char) (async : Parameter)
    {shown : Appearance} {effects : List CharacterEffect}
    (hshown : (seen? cast slot.position).or
      ((lastSeen? scene.earlier scene.index slot.position).map (·, [])) = some (shown, effects)) :
    ∃ next, after scene cast (.characterEffect slot kind name async) = .ok next ∧
      ∀ position, seen? next position =
        if position = slot.position then
          some (shown, effects ++
            [{ kind := effectKind (Parameter.text (some kind))
               name := String.ofList (Parameter.text (some name))
               async := async.visible?.isSome }])
        else seen? cast position := by
  obtain ⟨middle, hmiddle, hsame⟩ := occupied?_of_seen hshown
  simp only [after, animate, hmiddle]
  refine ⟨_, rfl, fun position => ?_⟩
  rw [seen?_modifyAt_effects, hsame slot.position, if_pos rfl, hsame position]
  split <;> rfl

/-- A call succeeds only if it settles an appearance. -/
theorem appearance?_isSome_of_after_character {name face : List Char} {talk : Parameter}
    (hnext : after scene cast (.character slot name face talk) = .ok next) :
    ∃ shown, scene.appearance? name face = some shown := by
  cases hid : scene.tables.characterId? (String.ofList (Parameter.text (some name))) with
  | none =>
    rw [after_character_of_unknownName hid] at hnext
    cases hnext
  | some id =>
    cases hrecord : scene.tables.character? id with
    | none =>
      rw [after_character_of_unknownCharacter hid hrecord] at hnext
      cases hnext
    | some record => simp [StagingContext.appearance?, hid, hrecord]

/-- An effect succeeds only where somebody stands, or has stood. -/
theorem seen?_isSome_of_after_characterEffect {kind name : List Char} {async : Parameter}
    (hnext : after scene cast (.characterEffect slot kind name async) = .ok next) :
    ∃ shown effects, (seen? cast slot.position).or
      ((lastSeen? scene.earlier scene.index slot.position).map (·, [])) =
        some (shown, effects) := by
  cases hseen : seen? cast slot.position with
  | some pair => exact ⟨pair.1, pair.2, rfl⟩
  | none =>
    cases hlast : lastSeen? scene.earlier scene.index slot.position with
    | none =>
      rw [after_characterEffect_of_empty hseen hlast] at hnext
      cases hnext
    | some shown => exact ⟨shown, [], rfl⟩

/-- Everything that a directive can do in a slot: leave it alone, call a character into it, or
animate whoever stands there or stood there last. -/
theorem seen?_of_after {directive : Directive} (hnext : after scene cast directive = .ok next)
    (slot : Slot) :
    (directive.slot? ≠ some slot ∧ seen? next slot.position = seen? cast slot.position) ∨
    (∃ call shown, directive.slot? = some slot ∧ directive.callIn? slot = some call ∧
      directive.effectIn? slot = none ∧ scene.appearance? call.1 call.2 = some shown ∧
      seen? next slot.position =
        some (shown, ((seen? cast slot.position).map (·.2)).getD [])) ∨
    ∃ effect shown effects, directive.slot? = some slot ∧ directive.callIn? slot = none ∧
      directive.effectIn? slot = some effect ∧
      (seen? cast slot.position).or
        ((lastSeen? scene.earlier scene.index slot.position).map (·, [])) = some (shown, effects) ∧
      seen? next slot.position = some (shown, effects ++ [effect]) := by
  cases directive with
  | character called name face talk =>
    obtain ⟨shown, hshown⟩ := appearance?_isSome_of_after_character hnext
    obtain ⟨other, hother, hseen⟩ := after_character_of_known cast called talk hshown
    cases hother.symm.trans hnext
    by_cases hslot : called = slot
    · subst hslot
      refine .inr (.inl ⟨(name, face), shown, rfl, if_pos rfl, rfl, hshown, ?_⟩)
      rw [hseen, if_pos rfl]
    · refine .inl ⟨fun hsame => hslot (Option.some.inj hsame), ?_⟩
      rw [hseen, if_neg fun hsame => hslot (Slot.position_inj.mp hsame).symm]
  | characterEffect animated kind name async =>
    obtain ⟨shown, effects, hshown⟩ := seen?_isSome_of_after_characterEffect hnext
    obtain ⟨other, hother, hseen⟩ := after_characterEffect_of_seen kind name async hshown
    cases hother.symm.trans hnext
    by_cases hslot : animated = slot
    · subst hslot
      refine .inr (.inr ⟨_, shown, effects, rfl, rfl, if_pos rfl, hshown, ?_⟩)
      rw [hseen, if_pos rfl]
    · refine .inl ⟨fun hsame => hslot (Option.some.inj hsame), ?_⟩
      rw [hseen, if_neg fun hsame => hslot (Slot.position_inj.mp hsame).symm]
  | _ =>
    cases hnext
    exact .inl ⟨nofun, rfl⟩

/-- A new unit is the first in which somebody is looked for. -/
theorem lastSeen?_concat {earlier : List StoryUnit} {unit : StoryUnit} :
    lastSeen? (earlier ++ [unit]) (earlier ++ [unit]).length position =
      ((seen? unit.cast position).map (·.1)).or
        (lastSeen? earlier earlier.length position) := by
  have hcharacter : unit.characterAt? position = occupant? unit.cast position := rfl
  simp only [lastSeen?, lastOccupant?, List.take_length, List.reverse_append,
    List.reverse_singleton, List.singleton_append, List.findSome?_cons, hcharacter, seen?]
  cases occupant? unit.cast position <;> rfl

end Cast

end VisualNovel
