/-
# What a file of records tells

A file tells records if it can be read, its bytes are a text, the text is one value of JSON, and
that is a list: an array, or an object in which exactly one field has one of the names of lists, and
it is an array. This is said here without the reader, and the reader is shown to find just that.
-/

import VisualNovel.Library.Content

namespace VisualNovel.Content

variable {α : Type} {decodeRecord? : Json → Option α} {json : Json} {records : List α}
  {items : List Json} {tree : FileTree} {path : Path}

/-- The value is a list of the items. -/
inductive IsList : Json → List Json → Prop
  /-- The list stands by itself. -/
  | bare (items : List Json) : IsList (.arr items) items
  /-- It is a field of an object, and no other field has a name of lists. -/
  | wrapped {before after : Json.Fields} {name : String} (items : List Json)
      (hname : name ∈ listNames) (hbefore : ∀ field ∈ before, field.1 ∉ listNames)
      (hafter : ∀ field ∈ after, field.1 ∉ listNames) :
      IsList (.obj (before ++ (name, .arr items) :: after)) items

/-- The text tells the records: it is a list of them, and nothing stands behind it. -/
def TextTells (decodeRecord? : Json → Option α) (text : String) (records : List α) : Prop :=
  ∃ json rest items, Json.scan .document text.toList = .ok (json, rest) ∧
    Json.Parser.finish rest = .ok () ∧ IsList json items ∧ items.mapM decodeRecord? = some records

/-- The content of a file tells the records. -/
def Tells (decodeRecord? : Json → Option α) (content : FileContent) (records : List α) : Prop :=
  ∃ bytes text, content = .ok bytes ∧ String.fromUTF8? bytes = some text ∧
    TextTells decodeRecord? text records

theorem filter_contains_eq_nil_iff {fields : Json.Fields} {names : List String} :
    (fields.filter fun field => names.contains field.1) = [] ↔
      ∀ field ∈ fields, field.1 ∉ names := by
  simp [List.filter_eq_nil_iff]

/-- A field is found by one of several names if it is the only one with such a name. -/
theorem lookup?_eq_some_some_iff {fields : Json.Fields} {names : List String} {value : Json} :
    fields.lookup? names = some (some value) ↔ ∃ before name after,
      fields = before ++ (name, value) :: after ∧ name ∈ names ∧
        (∀ field ∈ before, field.1 ∉ names) ∧ ∀ field ∈ after, field.1 ∉ names := by
  have hsingle : fields.lookup? names = some (some value) ↔ ∃ name,
      (fields.filter fun field => names.contains field.1) = [(name, value)] := by
    unfold Json.Fields.lookup?
    generalize (fields.filter fun field => names.contains field.1) = found
    rcases found with _ | ⟨⟨name, value⟩, _ | _⟩ <;> simp
  rw [hsingle]
  constructor
  · rintro ⟨name, hfilter⟩
    obtain ⟨before, after, rfl, hbefore, hname, hafter⟩ := List.filter_eq_cons_iff.mp hfilter
    exact ⟨before, name, after, rfl, by simpa using hname, by simpa using hbefore,
      filter_contains_eq_nil_iff.mp hafter⟩
  · rintro ⟨before, name, after, rfl, hname, hbefore, hafter⟩
    refine ⟨name, ?_⟩
    rw [List.filter_append, filter_contains_eq_nil_iff.mpr hbefore, List.nil_append,
      List.filter_cons_of_pos (by simpa using hname), filter_contains_eq_nil_iff.mpr hafter]

theorem list?_eq_some_iff :
    json.list? decodeRecord? = some records ↔
      ∃ items, json = .arr items ∧ items.mapM decodeRecord? = some records := by
  cases json <;> simp [Json.list?]

/-- A list is an array, or what is found in an object under one of the names. -/
theorem isList_obj_iff {fields : Json.Fields} :
    IsList (.obj fields) items ↔ fields.lookup? listNames = some (some (.arr items)) := by
  rw [lookup?_eq_some_some_iff]
  constructor
  · rintro (_ | ⟨items, hname, hbefore, hafter⟩)
    exact ⟨_, _, _, rfl, hname, hbefore, hafter⟩
  · rintro ⟨before, name, after, rfl, hname, hbefore, hafter⟩
    exact .wrapped items hname hbefore hafter

theorem records?_eq_some_iff :
    records? decodeRecord? json = some records ↔
      ∃ items, IsList json items ∧ items.mapM decodeRecord? = some records := by
  cases json with
  | obj fields =>
    simp only [records?, isList_obj_iff]
    constructor
    · intro hrecords
      split at hrecords
      next value hvalue =>
        obtain ⟨items, rfl, hitems⟩ := list?_eq_some_iff.mp hrecords
        exact ⟨items, hvalue, hitems⟩
      next => cases hrecords
    · rintro ⟨items, hvalue, hitems⟩
      rw [hvalue]
      exact hitems
  | arr items =>
    constructor
    · exact fun hitems => ⟨items, .bare items, hitems⟩
    · rintro ⟨_, ⟨⟩, hitems⟩
      exact hitems
  | null | bool | int | decimal | str | unreadable =>
    constructor
    · intro hrecords
      cases hrecords
    · rintro ⟨_, ⟨⟩, _⟩

theorem bind_eq_ok_iff {error β γ : Type} {result : Except error β} {next : β → Except error γ}
    {value : γ} :
    result >>= next = .ok value ↔ ∃ found, result = .ok found ∧ next found = .ok value := by
  cases result <;> simp [bind, Except.bind]

theorem map_eq_ok_iff {error β γ : Type} {result : Except error β} {f : β → γ} {value : γ} :
    result.map f = .ok value ↔ ∃ found, result = .ok found ∧ f found = value := by
  cases result <;> simp [Except.map]

theorem mapError_eq_ok_iff {error image β : Type} {result : Except error β} {f : error → image}
    {value : β} : result.mapError f = .ok value ↔ result = .ok value := by
  cases result with
  | error fault =>
    change Except.error _ = Except.ok _ ↔ _
    simp
  | ok found =>
    change Except.ok _ = Except.ok _ ↔ _
    simp

theorem decode_eq_ok_iff {β γ : Type} {scan : Json.Scan β} {understand : β → Option γ}
    {text : String} {value : γ} :
    decode scan understand text = .ok value ↔ ∃ found rest, scan text.toList = .ok (found, rest) ∧
      understand found = some value ∧ Json.Parser.finish rest = .ok () := by
  simp only [decode, bind_eq_ok_iff, mapError_eq_ok_iff, Prod.exists]
  refine exists₂_congr fun found rest => and_congr_right fun _ => ?_
  cases understand found with
  | none => simp
  | some understood =>
    cases Json.Parser.finish rest <;>
      simp [bind_eq_ok_iff, mapError_eq_ok_iff, pure, Except.pure]

theorem decode_eq_ok_iff_textTells {text : String} :
    decode (Json.scan .document) (records? decodeRecord?) text = .ok records ↔
      TextTells decodeRecord? text records := by
  rw [decode_eq_ok_iff]
  constructor
  · rintro ⟨json, rest, hscan, hrecords, hfinish⟩
    obtain ⟨items, hlist, hitems⟩ := records?_eq_some_iff.mp hrecords
    exact ⟨json, rest, items, hscan, hfinish, hlist, hitems⟩
  · rintro ⟨json, rest, items, hscan, hfinish, hlist, hitems⟩
    exact ⟨json, rest, hscan, records?_eq_some_iff.mpr ⟨items, hlist, hitems⟩, hfinish⟩

/-- A list is read from a path that leads to a file if the file tells records. -/
theorem readList_eq_ok_iff {content : FileContent} (hfind : tree.find path = .ok (.file content)) :
    readList tree path decodeRecord? = .ok records ↔ Tells decodeRecord? content records := by
  have hthere : tree.contains path = true := by
    rw [FileTree.contains, hfind]
    rfl
  unfold readList read Tells
  rw [if_pos hthere, FileTree.read, hfind]
  simp only [bind, Except.bind]
  cases content with
  | error reason => simp [map_eq_ok_iff]
  | ok bytes =>
    simp only [Except.ok.injEq, exists_and_left, exists_eq_left']
    cases String.fromUTF8? bytes with
    | none => simp [map_eq_ok_iff]
    | some text =>
      simp only [Option.some.injEq, exists_eq_left']
      rw [← decode_eq_ok_iff_textTells]
      simp only [map_eq_ok_iff, mapError_eq_ok_iff]
      constructor
      · rintro ⟨_, ⟨found, hdecode, rfl⟩, rfl⟩
        exact hdecode
      · intro hdecode
        exact ⟨some records, ⟨records, hdecode, rfl⟩, rfl⟩

/-- What is read from any path is what the file there tells, and no records where nothing is. From a
directory nothing is read. -/
theorem readList_eq_ok_iff_tells :
    readList tree path decodeRecord? = .ok records ↔
      (∃ content, tree.find path = .ok (.file content) ∧ Tells decodeRecord? content records) ∨
        tree.contains path = false ∧ records = [] := by
  cases hfind : tree.find path with
  | error reason =>
    have hread : readList tree path decodeRecord? = .ok [] := by
      rw [readList, read, FileTree.contains, hfind]
      rfl
    simp [hread, FileTree.contains, hfind, Except.toOption, eq_comm]
  | ok found =>
    cases found with
    | file content =>
      simp [readList_eq_ok_iff hfind, FileTree.contains, hfind, Except.toOption]
    | directory entries =>
      have hread : readList tree path decodeRecord? = .error (.unreadable path .isDirectory) := by
        rw [readList, read, FileTree.contains, FileTree.read, hfind]
        rfl
      simp [hread, FileTree.contains, hfind, Except.toOption]

end VisualNovel.Content
