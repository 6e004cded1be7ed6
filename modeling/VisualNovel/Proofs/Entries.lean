/-
# Entries by key

A list of entries with different keys is as good as a map: an entry is in it if and only if it is
found by its key, and a map that is filled from it has no need of its order.
-/

import Mathlib.Data.List.Nodup
import Std.Data.ExtTreeMap

namespace VisualNovel

section Lookup

variable {κ α : Type} [BEq κ] [LawfulBEq κ] {entries others : List (κ × α)} {key : κ} {value : α}

/-- What is found by a key is an entry with it. -/
theorem mem_of_lookup_eq_some (hfound : entries.lookup key = some value) :
    (key, value) ∈ entries := by
  obtain ⟨before, after, rfl, _⟩ := List.lookup_eq_some_iff.mp hfound
  exact List.mem_append_right before List.mem_cons_self

/-- Among entries with different keys, an entry is found by its key. -/
theorem lookup_eq_some_iff_mem (hnodup : (entries.map Prod.fst).Nodup) :
    entries.lookup key = some value ↔ (key, value) ∈ entries := by
  refine ⟨mem_of_lookup_eq_some, fun hmem => ?_⟩
  obtain ⟨before, after, rfl⟩ := List.append_of_mem hmem
  refine List.lookup_eq_some_iff.mpr ⟨before, after, rfl, fun entry hentry => bne_iff_ne.mpr ?_⟩
  rw [List.map_append, List.nodup_append] at hnodup
  exact (hnodup.2.2 entry.1 (List.mem_map_of_mem hentry) key (by simp)).symm

/-- It does not matter in which order they are. -/
theorem lookup_eq_of_perm (hperm : entries.Perm others) (hnodup : (entries.map Prod.fst).Nodup) :
    entries.lookup key = others.lookup key := by
  have hnodup' : (others.map Prod.fst).Nodup := (hperm.map Prod.fst).nodup_iff.mp hnodup
  ext value
  rw [lookup_eq_some_iff_mem hnodup, lookup_eq_some_iff_mem hnodup', hperm.mem_iff]

end Lookup

section Filling

variable {α : Type} {entries others : List (String × α)} {filled : Std.ExtTreeMap String α}
  {key : String}

/-- A map that is filled from entries with different keys has what was found by the key among them,
or else what it had. -/
theorem getElem?_insertMany_eq_or (hnodup : (entries.map Prod.fst).Nodup) :
    (filled.insertMany entries)[key]? = (entries.lookup key).or filled[key]? := by
  induction entries generalizing filled with
  | nil => rw [Std.ExtTreeMap.insertMany_nil, List.lookup_nil, Option.none_or]
  | cons first rest ih =>
    obtain ⟨other, value⟩ := first
    obtain ⟨hnew, hrest⟩ := List.nodup_cons.mp hnodup
    rw [Std.ExtTreeMap.insertMany_cons, ih hrest, Std.ExtTreeMap.getElem?_insert]
    by_cases hkey : other = key
    · subst hkey
      have hnone : rest.lookup other = none := by
        refine List.lookup_eq_none_iff.mpr fun entry hentry => bne_iff_ne.mpr fun heq => ?_
        exact hnew (List.mem_map.mpr ⟨entry, hentry, heq.symm⟩)
      simp [hnone]
    · have hne : (key == other) = false := beq_false_of_ne (Ne.symm hkey)
      simp [List.lookup_cons, hne, hkey]

/-- It does not matter in which order it is filled. -/
theorem insertMany_eq_of_perm (hperm : entries.Perm others)
    (hnodup : (entries.map Prod.fst).Nodup) :
    filled.insertMany entries = filled.insertMany others := by
  have hnodup' : (others.map Prod.fst).Nodup := (hperm.map Prod.fst).nodup_iff.mp hnodup
  refine Std.ExtTreeMap.ext_getElem? fun key => ?_
  rw [getElem?_insertMany_eq_or hnodup, getElem?_insertMany_eq_or hnodup',
    lookup_eq_of_perm hperm hnodup]

/-- Nor does it matter that it was filled from the same entries before. -/
theorem insertMany_insertMany_self (hnodup : (entries.map Prod.fst).Nodup) :
    (filled.insertMany entries).insertMany entries = filled.insertMany entries := by
  refine Std.ExtTreeMap.ext_getElem? fun key => ?_
  rw [getElem?_insertMany_eq_or hnodup, getElem?_insertMany_eq_or hnodup, ← Option.or_assoc,
    Option.or_self]

/-- A new map that is filled from the entries of a map is that map. -/
theorem insertMany_toList (filled : Std.ExtTreeMap String α) :
    (∅ : Std.ExtTreeMap String α).insertMany filled.toList = filled := by
  have hnodup : (filled.toList.map Prod.fst).Nodup := by
    rw [Std.ExtTreeMap.map_fst_toList_eq_keys]
    exact Std.ExtTreeMap.nodup_keys
  refine Std.ExtTreeMap.ext_getElem? fun key => ?_
  ext value
  rw [getElem?_insertMany_eq_or hnodup, Std.ExtTreeMap.getElem?_empty, Option.or_none,
    lookup_eq_some_iff_mem hnodup, Std.ExtTreeMap.mem_toList_iff_getElem?_eq_some]

/-- A new map has as many entries as it is filled from. -/
theorem size_insertMany_empty (hnodup : (entries.map Prod.fst).Nodup) :
    ((∅ : Std.ExtTreeMap String α).insertMany entries).size = entries.length := by
  have hdistinct : entries.Pairwise fun first second => ¬compare first.1 second.1 = .eq :=
    (List.pairwise_map.mp hnodup).imp fun hne heq => hne (Std.LawfulEqOrd.eq_of_compare heq)
  rw [Std.ExtTreeMap.size_insertMany_list hdistinct (by simp), Std.ExtTreeMap.size_empty,
    Nat.zero_add]

end Filling

end VisualNovel
