/-
# Values read back from JSON

Decoders undo the encoders that go with them: for integers, truth values and texts, for lists and
for values that may be absent. A record is an object whose fields have different
names, so each of them is found by its name, whatever the others are.
-/

import VisualNovel.Json.Decode
import VisualNovel.Json.Encode

namespace VisualNovel.Json

variable {α : Type}

theorem intBetween?_int {low high value : Int} (hlow : low ≤ value) (hhigh : value ≤ high) :
    (int value).intBetween? low high = some value :=
  if_pos ⟨hlow, hhigh⟩

@[simp] theorem uint8?_ofNat (n : UInt8) : (ofNat n.toNat).uint8? = some n := by
  have hbound := n.toNat_lt
  rw [uint8?, ofNat, intBetween?_int (by omega) (by omega)]
  simp

@[simp] theorem uint32?_ofNat (n : UInt32) : (ofNat n.toNat).uint32? = some n := by
  have hbound := n.toNat_lt
  rw [uint32?, ofNat, intBetween?_int (by omega) (by omega)]
  simp

@[simp] theorem uint64?_ofNat (n : UInt64) : (ofNat n.toNat).uint64? = some n := by
  have hbound := n.toNat_lt
  rw [uint64?, ofNat, intBetween?_int (by omega) (by omega)]
  simp

@[simp] theorem int32?_int (n : Int32) : (int n.toInt).int32? = some n := by
  have hlow := n.le_toInt
  have hhigh := n.toInt_lt
  rw [int32?, intBetween?_int (by omega) (by omega)]
  simp

@[simp] theorem text?_str (text : String) : (str text).text? = some text := rfl

@[simp] theorem bool?_bool (value : Bool) : (bool value).bool? = some value := rfl

@[simp] theorem name?_str (name : String) : (str name).name? = some name := rfl

@[simp] theorem fullRecord?_obj (names : List String) (fields : Fields) :
    (obj fields).fullRecord? names = some fields := rfl

/-- A list is read back if its items are. -/
theorem list?_ofList {encode : α → Json} {decode : Json → Option α} {items : List α}
    (hitems : ∀ item ∈ items, decode (encode item) = some item) :
    (ofList encode items).list? decode = some items := by
  change (items.map encode).mapM decode = some items
  induction items with
  | nil => rfl
  | cons item rest ih =>
    obtain ⟨hitem, hrest⟩ := List.forall_mem_cons.mp hitems
    rw [List.map_cons, List.mapM_cons, hitem, ih hrest]
    rfl

/-- A value that may be absent is read back, if its encoding cannot be mistaken for its absence. -/
theorem nullable?_ofOption {encode : α → Json} {decode : Json → Option α} {value : Option α}
    (hnull : ∀ value, encode value ≠ null)
    (hvalue : ∀ present, value = some present → decode (encode present) = some present) :
    (ofOption encode value).nullable? decode = some value := by
  cases value with
  | none => rfl
  | some present =>
    rw [ofOption, nullable?]
    · rw [hvalue present rfl]
      rfl
    · exact hnull present

namespace Fields

variable {fields : Fields} {name other : String} {value : Json} {fallback : α}
  {decode : Json → Option α}

theorem lookup?_cons_self (hnew : name ∉ fields.map Prod.fst) :
    lookup? ((name, value) :: fields) [name] = some (some value) := by
  have hrest : (fields.filter fun field => [name].contains field.1) = [] := by
    rw [List.filter_eq_nil_iff]
    intro field hfield hname
    have heq : field.1 = name := by simpa using hname
    exact hnew (List.mem_map.mpr ⟨field, hfield, heq⟩)
  rw [lookup?, List.filter_cons_of_pos (by simp), hrest]

theorem lookup?_cons_of_ne (hne : other ≠ name) :
    lookup? ((other, value) :: fields) [name] = lookup? fields [name] := by
  rw [lookup?, List.filter_cons_of_neg (by simpa using hne)]
  rfl

@[simp] theorem required?_cons_self (hnew : name ∉ fields.map Prod.fst) :
    required? ((name, value) :: fields) name decode = decode value := by
  rw [required?, lookup?_cons_self hnew]
  rfl

@[simp] theorem required?_cons_of_ne (hne : other ≠ name) :
    required? ((other, value) :: fields) name decode = required? fields name decode := by
  rw [required?, required?, lookup?_cons_of_ne hne]

@[simp] theorem withDefault?_cons_self (hnew : name ∉ fields.map Prod.fst) :
    withDefault? ((name, value) :: fields) name fallback decode = decode value := by
  rw [withDefault?, lookup?_cons_self hnew]
  rfl

@[simp] theorem withDefault?_cons_of_ne (hne : other ≠ name) :
    withDefault? ((other, value) :: fields) name fallback decode =
      withDefault? fields name fallback decode := by
  rw [withDefault?, withDefault?, lookup?_cons_of_ne hne]

@[simp] theorem optional?_cons_self (hnew : name ∉ fields.map Prod.fst) :
    optional? ((name, value) :: fields) name decode = value.nullable? decode := by
  rw [optional?, lookup?_cons_self hnew]
  rfl

@[simp] theorem optional?_cons_of_ne (hne : other ≠ name) :
    optional? ((other, value) :: fields) name decode = optional? fields name decode := by
  rw [optional?, optional?, lookup?_cons_of_ne hne]

end Fields

end VisualNovel.Json
