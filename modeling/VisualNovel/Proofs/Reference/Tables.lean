/-
# What reference tables answer

Reference tables are filled by one insertion after the other, of all sorts and in any order. What
they answer is told here from the insertions alone. A record is the last one that was inserted under
its key. The number of a name is the one that the name was given explicitly last or else, if no
insertion gives it one, that of the first character with this Korean name. It does not matter which
of the two came earlier.

Nothing is said here of where the insertions come from. Names are inserted as they are, but looked
up without the blanks at their ends; what follows from that is the second half of this module.
-/

import Mathlib.Data.List.Induction
import VisualNovel.Proofs.Text.Blank
import VisualNovel.Reference.Tables

namespace VisualNovel

open Std (ExtTreeMap TransOrd LawfulEqOrd)

/-- What is inserted into reference tables. -/
inductive TableEntry
  | name (name : String) (id : UInt64)
  | character (record : CharacterRecord)
  | background (record : BackgroundRecord)
  | music (record : MusicRecord)
  | transition (record : TransitionRecord)
  | backgroundEffect (record : BackgroundEffectRecord)
  | live2dConfig (config : Live2dConfig)

namespace TableEntry

/-- The number that the entry gives the name explicitly. -/
def explicit? (name : String) : TableEntry → Option UInt64
  | .name other id => if other = name then some id else none
  | _ => none

/-- The number of the character that the entry inserts, if the name is its Korean name and is not
empty. -/
def derived? (name : String) : TableEntry → Option UInt64
  | .character record => if record.nameKr ≠ "" ∧ record.nameKr = name then some record.id else none
  | _ => none

/-- The character that the entry inserts. -/
def character? : TableEntry → Option CharacterRecord
  | .character record => some record
  | _ => none

/-- The background that the entry inserts. -/
def background? : TableEntry → Option BackgroundRecord
  | .background record => some record
  | _ => none

/-- The music that the entry inserts. -/
def music? : TableEntry → Option MusicRecord
  | .music record => some record
  | _ => none

/-- The transition that the entry inserts. -/
def transition? : TableEntry → Option TransitionRecord
  | .transition record => some record
  | _ => none

/-- The effect on the background that the entry inserts. -/
def backgroundEffect? : TableEntry → Option BackgroundEffectRecord
  | .backgroundEffect record => some record
  | _ => none

/-- The configuration that the entry inserts. -/
def live2dConfig? : TableEntry → Option Live2dConfig
  | .live2dConfig config => some config
  | _ => none

/-- What is picked out of the last entry out of which there is something to pick. -/
def last? {α : Type} (pick? : TableEntry → Option α) (entries : List TableEntry) : Option α :=
  entries.reverse.findSome? pick?

theorem last?_concat {α : Type} {pick? : TableEntry → Option α} {entries : List TableEntry}
    (entry : TableEntry) :
    last? pick? (entries ++ [entry]) = (pick? entry).or (last? pick? entries) := by
  rw [last?, List.reverse_concat, List.findSome?_cons]
  cases pick? entry <;> rfl

end TableEntry

namespace ReferenceTables

variable {tables : ReferenceTables} {entries : List TableEntry} {name : String}

/-- The tables with one more entry. -/
def insert (tables : ReferenceTables) : TableEntry → ReferenceTables
  | .name name id => tables.insertName name id
  | .character record => tables.insertCharacter record
  | .background record => tables.insertBackground record
  | .music record => tables.insertMusic record
  | .transition record => tables.insertTransition record
  | .backgroundEffect record => tables.insertBackgroundEffect record
  | .live2dConfig config => tables.insertLive2dConfig config

/-- The tables with more entries, inserted one after the other. -/
def insertAll (tables : ReferenceTables) (entries : List TableEntry) : ReferenceTables :=
  entries.foldl insert tables

theorem insertAll_concat (entry : TableEntry) :
    tables.insertAll (entries ++ [entry]) = (tables.insertAll entries).insert entry := by
  rw [insertAll, List.foldl_append, List.foldl_cons, List.foldl_nil]
  rfl

theorem insertAll_append (more : List TableEntry) :
    tables.insertAll (entries ++ more) = (tables.insertAll entries).insertAll more := by
  rw [insertAll, List.foldl_append]
  rfl

theorem insertAll_map {α : Type} (entry : α → TableEntry) (records : List α) :
    tables.insertAll (records.map entry) =
      records.foldl (fun tables record => tables.insert (entry record)) tables := by
  rw [insertAll, List.foldl_map]

/-- One of the tables holds the records that are picked out of the entries, by their keys. -/
def HoldsRecords {κ α : Type} [Ord κ] [TransOrd κ] (table : ReferenceTables → ExtTreeMap κ α)
    (record? : TableEntry → Option α) (key : α → κ) : Prop :=
  ∀ tables entry, table (tables.insert entry) =
    match record? entry with
    | some record => (table tables).insert (key record) record
    | none => table tables

theorem holdsRecords_characters : HoldsRecords characters TableEntry.character? (·.id) := by
  rintro tables (_ | _ | _ | _ | _ | _ | _) <;> rfl

theorem holdsRecords_backgrounds : HoldsRecords backgrounds TableEntry.background? (·.id) := by
  rintro tables (_ | _ | _ | _ | _ | _ | _) <;> rfl

theorem holdsRecords_music : HoldsRecords music TableEntry.music? (·.id) := by
  rintro tables (_ | _ | _ | _ | _ | _ | _) <;> rfl

theorem holdsRecords_transitions : HoldsRecords transitions TableEntry.transition? (·.id) := by
  rintro tables (_ | _ | _ | _ | _ | _ | _) <;> rfl

theorem holdsRecords_backgroundEffects :
    HoldsRecords backgroundEffects TableEntry.backgroundEffect? (·.id) := by
  rintro tables (_ | _ | _ | _ | _ | _ | _) <;> rfl

theorem holdsRecords_live2dConfigs :
    HoldsRecords live2dConfigs TableEntry.live2dConfig? (·.name) := by
  rintro tables (_ | _ | _ | _ | _ | _ | _) <;> rfl

section Records

variable {κ α : Type} [Ord κ] [TransOrd κ] [LawfulEqOrd κ] [DecidableEq κ]
  {table : ReferenceTables → ExtTreeMap κ α} {record? : TableEntry → Option α} {key : α → κ}

/-- One entry changes the table under the key of its record. -/
theorem HoldsRecords.getElem?_insert (hholds : HoldsRecords table record? key) (entry : TableEntry)
    (place : κ) :
    (table (tables.insert entry))[place]? =
      ((record? entry).filter (key · = place)).or (table tables)[place]? := by
  rw [hholds]
  cases record? entry with
  | none => rfl
  | some record =>
    simp only [ExtTreeMap.getElem?_insert, LawfulEqOrd.compare_eq_iff_eq]
    by_cases hkey : key record = place <;> simp [hkey, Option.filter_some]

/-- By induction on the entries from the last one, the record under a key is the last one with it
among them, or else the one from before. -/
theorem HoldsRecords.getElem?_insertAll (hholds : HoldsRecords table record? key) (place : κ) :
    (table (tables.insertAll entries))[place]? =
      (TableEntry.last? (fun entry => (record? entry).filter (key · = place)) entries).or
        (table tables)[place]? := by
  induction entries using List.reverseRecOn with
  | nil => rfl
  | append_singleton entries entry ih =>
    rw [insertAll_concat, hholds.getElem?_insert, ih, TableEntry.last?_concat, Option.or_assoc]

/-- Entries that were inserted before change nothing. -/
theorem HoldsRecords.insertAll_insertAll (hholds : HoldsRecords table record? key) :
    table ((tables.insertAll entries).insertAll entries) = table (tables.insertAll entries) := by
  refine ExtTreeMap.ext_getElem? fun place => ?_
  rw [hholds.getElem?_insertAll, hholds.getElem?_insertAll, ← Option.or_assoc, Option.or_self]

end Records

theorem getElem?_names_insertName (other : String) (id : UInt64) (name : String) :
    (tables.insertName other id).names[name]? =
      if other = name then some id else tables.names[name]? := by
  simp only [insertName, ExtTreeMap.getElem?_insert, LawfulEqOrd.compare_eq_iff_eq]

/-- A character gives a name a number if it is its Korean name, is not empty and has no number. -/
theorem getElem?_names_insertCharacter (record : CharacterRecord) (name : String) :
    (tables.insertCharacter record).names[name]? =
      tables.names[name]?.or ((TableEntry.character record).derived? name) := by
  by_cases hempty : record.nameKr = ""
  · simp [insertCharacter, TableEntry.derived?, hempty]
  · have hnames : (tables.insertCharacter record).names =
        tables.names.insertIfNew record.nameKr record.id := by
      rw [insertCharacter, if_neg (by simpa using hempty)]
    rw [hnames, ExtTreeMap.getElem?_insertIfNew, TableEntry.derived?]
    by_cases hname : record.nameKr = name
    · subst hname
      by_cases hmem : record.nameKr ∈ tables.names <;> simp [hmem, hempty]
    · simp [hname]

/-- One entry changes the number of a name if it gives it one explicitly, or if it is the first to
give it one. -/
theorem getElem?_names_insert (entry : TableEntry) (name : String) :
    (tables.insert entry).names[name]? =
      (entry.explicit? name).or (tables.names[name]?.or (entry.derived? name)) := by
  cases entry with
  | name other id =>
    rw [insert, getElem?_names_insertName, TableEntry.explicit?]
    by_cases hname : other = name <;> simp [hname, TableEntry.derived?]
  | character record => exact getElem?_names_insertCharacter record name
  | background | music | transition | backgroundEffect | live2dConfig =>
    exact (Option.or_none).symm

/-- By induction on the entries from the last one, the number of a name is the last explicit one
among them, or else the one from before, or else that of the first character of this name. -/
theorem getElem?_names_insertAll (name : String) :
    (tables.insertAll entries).names[name]? =
      (TableEntry.last? (·.explicit? name) entries).or
        (tables.names[name]?.or (entries.findSome? (·.derived? name))) := by
  induction entries using List.reverseRecOn with
  | nil => exact (Option.or_none).symm
  | append_singleton entries entry ih =>
    rw [insertAll_concat, getElem?_names_insert, ih, TableEntry.last?_concat,
      List.findSome?_append, List.findSome?_singleton]
    simp only [Option.or_assoc]

attribute [ext] ReferenceTables

/-- Whatever was in the tables, and whatever keys and names occur among the entries more than once,
entries that were all inserted before change nothing. -/
theorem insertAll_insertAll :
    (tables.insertAll entries).insertAll entries = tables.insertAll entries := by
  ext1
  case names =>
    refine ExtTreeMap.ext_getElem? fun name => ?_
    rw [getElem?_names_insertAll, getElem?_names_insertAll, Option.or_assoc, Option.or_assoc,
      Option.or_self, ← Option.or_assoc, Option.or_self]
  case characters => exact holdsRecords_characters.insertAll_insertAll
  case backgrounds => exact holdsRecords_backgrounds.insertAll_insertAll
  case music => exact holdsRecords_music.insertAll_insertAll
  case transitions => exact holdsRecords_transitions.insertAll_insertAll
  case backgroundEffects => exact holdsRecords_backgroundEffects.insertAll_insertAll
  case live2dConfigs => exact holdsRecords_live2dConfigs.insertAll_insertAll

/-- The name without its blank ends, as which it is looked up. -/
def trimmed (name : String) : String := String.ofList (Text.trim name.toList)

theorem characterId?_eq (query : String) :
    tables.characterId? query = tables.names[trimmed query]? := rfl

/-- What new tables answer, once they are filled, is settled by the entries: a name has the number
that it was given explicitly last, or else that of the first character whose Korean name it is; and
the character with a number is the last one. -/
theorem answers_insertAll (entries : List TableEntry) :
    (∀ query, (empty.insertAll entries).characterId? query =
      (TableEntry.last? (·.explicit? (trimmed query)) entries).or
        (entries.findSome? (·.derived? (trimmed query)))) ∧
      ∀ id, (empty.insertAll entries).character? id =
        TableEntry.last? (fun entry => entry.character?.filter (·.id = id)) entries := by
  constructor
  · intro query
    rw [characterId?_eq, getElem?_names_insertAll, empty, ExtTreeMap.getElem?_empty, Option.none_or]
  · intro id
    rw [character?, holdsRecords_characters.getElem?_insertAll, empty, ExtTreeMap.getElem?_empty,
      Option.or_none]

/-- An explicit number of a name wins over that of a character that was there before. -/
example :
    let tables := empty.insertAll
      [.character { id := 1001, nameKr := "Yuuka" }, .name "Yuuka" 7, .name "Yuuka" 8,
        .character { id := 1002, nameKr := "Noa" }, .character { id := 1003, nameKr := "Noa" }]
    tables.characterId? " Yuuka " = some 8 ∧ tables.characterId? "Noa" = some 1002 := by
  decide +kernel

theorem trimmed_eq_self_iff : trimmed name = name ↔ Text.HasVisibleEnds name.toList := by
  rw [← Text.trim_eq_self_iff, trimmed]
  constructor
  · intro hname
    rw [← String.toList_ofList (l := Text.trim name.toList), hname]
  · intro htrim
    rw [htrim, String.ofList_toList]

/-- Whatever is in the tables, a name that is inserted is found with its number if and only if it
has no blank end, or the name without its blank ends had that number before. The Korean name of a
character is found if and only if it is inserted at all and has no blank end, or could be found
before. -/
theorem found_iff_hasVisibleEnds (tables : ReferenceTables) :
    (∀ name id, (tables.insertName name id).characterId? name = some id ↔
      Text.HasVisibleEnds name.toList ∨ tables.characterId? name = some id) ∧
      ∀ record, ((tables.insertCharacter record).characterId? record.nameKr).isSome ↔
        record.nameKr ≠ "" ∧ Text.HasVisibleEnds record.nameKr.toList ∨
          (tables.characterId? record.nameKr).isSome := by
  constructor
  · intro name id
    rw [characterId?_eq, getElem?_names_insertName, ← trimmed_eq_self_iff, ← characterId?_eq]
    by_cases hname : trimmed name = name
    · rw [if_pos hname.symm]
      exact iff_of_true rfl (.inl hname)
    · rw [if_neg (Ne.symm hname), or_iff_right hname]
  · intro record
    rw [characterId?_eq, getElem?_names_insertCharacter, ← characterId?_eq, Option.isSome_or,
      Bool.or_eq_true, or_comm, TableEntry.derived?, Option.isSome_ite, ← trimmed_eq_self_iff]
    exact or_congr_left (and_congr_right fun _ => eq_comm)

/-- With a blank in front of its name, neither a character nor a name is found. -/
theorem not_found_padded :
    (¬ ∀ (entries : List TableEntry) (record : CharacterRecord), record.nameKr ≠ "" →
        ((empty.insertAll entries).insertCharacter record).characterId? record.nameKr ≠ none) ∧
      ¬ ∀ (entries : List TableEntry) (name : String) (id : UInt64),
        ((empty.insertAll entries).insertName name id).characterId? name = some id := by
  constructor
  · intro hall
    exact hall [] { id := 1001, nameKr := " Yuuka" } (by decide) (by decide +kernel)
  · intro hall
    exact absurd (hall [] " Yuuka" 1001) (by decide +kernel)

end ReferenceTables

end VisualNovel
