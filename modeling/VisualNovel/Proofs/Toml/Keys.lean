/-
# The keys of a document

A document gives a key of its outermost table one value. Reading makes sure of it statement by
statement: whatever a statement changes, it changes the entry of one key, and adds that entry only
where there was none. So it does not matter whether the values of a document are looked up from the
front, from the back or by a map.
-/

import Std.Data.ExtTreeMap
import VisualNovel.Toml.Parser

namespace VisualNovel.Toml

namespace Entries

variable {key : String} {change : Option Node → Option Node} {entries changed : Entries}

/-- The keys of a table, in their order. -/
def keys (entries : Entries) : List String := entries.map Prod.fst

/-- Changing what a key stands for adds the key at most. -/
theorem keys_alter? (halter : entries.alter? key change = some changed) :
    changed.keys = entries.keys ∨ key ∉ entries.keys ∧ changed.keys = entries.keys ++ [key] := by
  induction entries generalizing changed with
  | nil =>
    obtain ⟨node, _, rfl⟩ := Option.map_eq_some_iff.mp halter
    exact .inr ⟨List.not_mem_nil, rfl⟩
  | cons first rest ih =>
    obtain ⟨other, node⟩ := first
    rw [alter?] at halter
    by_cases hkey : other = key
    · rw [if_pos hkey] at halter
      obtain ⟨_, _, rfl⟩ := Option.map_eq_some_iff.mp halter
      exact .inl (by simp [keys, hkey])
    · rw [if_neg hkey] at halter
      obtain ⟨further, hfurther, rfl⟩ := Option.map_eq_some_iff.mp halter
      rcases ih hfurther with hsame | ⟨hnew, hadded⟩
      · exact .inl (congrArg (other :: ·) hsame)
      · refine .inr ⟨?_, congrArg (other :: ·) hadded⟩
        exact List.not_mem_cons_of_ne_of_not_mem (Ne.symm hkey) hnew

theorem nodup_keys_alter? (hnodup : entries.keys.Nodup)
    (halter : entries.alter? key change = some changed) : changed.keys.Nodup := by
  rcases keys_alter? halter with hsame | ⟨hnew, hadded⟩
  · rwa [hsame]
  · rw [hadded]
    refine List.nodup_append.mpr ⟨hnodup, by simp, fun other hother => ?_⟩
    rintro _ hkey rfl
    exact hnew (List.mem_singleton.mp hkey ▸ hother)

/-- A change further inside is a change of what one key stands for. -/
theorem nodup_keys_within? {making origin : Origin} {path : List String}
    {inside : Origin → Entries → Option Entries}
    (hinside : ∀ {origin entries changed},
      inside origin entries = some changed → entries.keys.Nodup → changed.keys.Nodup)
    (hwithin : entries.within? making inside path origin = some changed)
    (hnodup : entries.keys.Nodup) : changed.keys.Nodup := by
  cases path with
  | nil => exact hinside hwithin hnodup
  | cons first rest => exact nodup_keys_alter? hnodup hwithin

end Entries

namespace Document

theorem nodup_keys_after? {document next : Document} {statement : Statement}
    (hafter : document.after? statement = some next) (hnodup : document.root.keys.Nodup) :
    next.root.keys.Nodup := by
  cases statement with
  | header path key =>
    obtain ⟨root, hroot, rfl⟩ := Option.map_eq_some_iff.mp hafter
    exact Entries.nodup_keys_within? (fun h hinner => Entries.nodup_keys_alter? hinner h) hroot
      hnodup
  | element path key =>
    obtain ⟨root, hroot, rfl⟩ := Option.map_eq_some_iff.mp hafter
    exact Entries.nodup_keys_within? (fun h hinner => Entries.nodup_keys_alter? hinner h) hroot
      hnodup
  | assign path key value =>
    obtain ⟨root, hroot, rfl⟩ := Option.map_eq_some_iff.mp hafter
    refine Entries.nodup_keys_within? (fun hassign => ?_) hroot hnodup
    refine Entries.nodup_keys_within? (fun hinner hkeys => ?_) hassign
    split at hinner
    · exact Entries.nodup_keys_alter? hkeys hinner
    · cases hinner

theorem nodup_keys_foldlM {statements : List Statement} {document last : Document}
    (hfold : statements.foldlM after? document = some last)
    (hnodup : document.root.keys.Nodup) : last.root.keys.Nodup := by
  induction statements generalizing document with
  | nil =>
    cases hfold
    exact hnodup
  | cons statement rest ih =>
    obtain ⟨next, hnext, hrest⟩ := Option.bind_eq_some_iff.mp hfold
    exact ih hrest (nodup_keys_after? hnext hnodup)

end Document

theorem map_fst_finished (entries : Entries) : (finished entries).map Prod.fst = entries.keys := by
  induction entries with
  | nil => rfl
  | cons first rest ih => exact congrArg (first.1 :: ·) ih

theorem map_fst_entriesWithMoments? {entries found : List (String × Toml)}
    (hfound : entriesWithMoments? entries = some found) :
    found.map Prod.fst = entries.map Prod.fst := by
  induction entries generalizing found with
  | nil =>
    cases hfound
    rfl
  | cons first rest ih =>
    obtain ⟨value, _, hvalue⟩ := Option.bind_eq_some_iff.mp hfound
    obtain ⟨others, hothers, hcons⟩ := Option.bind_eq_some_iff.mp hvalue
    cases hcons
    exact congrArg (first.1 :: ·) (ih hothers)

/-- A document has every key once. -/
theorem nodup_keys_of_parse? {text : String} {entries : List (String × Toml)}
    (hparse : parse? text = some entries) : (entries.map Prod.fst).Nodup := by
  obtain ⟨found, hfound, hmoments⟩ := Option.bind_eq_some_iff.mp hparse
  obtain ⟨statements, _, hstatements⟩ := Option.bind_eq_some_iff.mp hfound
  obtain ⟨document, hdocument, rfl⟩ := Option.map_eq_some_iff.mp hstatements
  rw [map_fst_entriesWithMoments? hmoments, map_fst_finished]
  exact Document.nodup_keys_foldlM hdocument .nil

end VisualNovel.Toml
