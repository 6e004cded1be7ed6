/-
# The history of a configuration store

What a store answers is told here without a store, from the requests that were made before: the
first of them that brings a document fills it, once and for all; a section that was set since is the
one set last under its name, and any other is that of the document.

The store itself has no history. It has a map, and every request is answered from the map alone.
This module shows that the two accounts agree after any sequence of requests, whichever of them
fail. On the way it is seen what fails, that what fails leaves the store as it was, that a section
set under one name leaves the other names alone, and that it is read back as it was set.
-/

import VisualNovel.Command.Run
import VisualNovel.Proofs.Entries
import VisualNovel.Proofs.Toml.Keys

namespace VisualNovel

/-- The three sections of a configuration. -/
inductive SectionKind
  | system
  | reading
  | preload
  deriving DecidableEq, Repr

namespace SectionKind

/-- The type of the section. -/
def Config : SectionKind → Type
  | system => SystemConfig
  | reading => ReadingConfig
  | preload => PreloadConfig

instance (kind : SectionKind) : ConfigSection kind.Config :=
  match kind with
  | system => inferInstanceAs (ConfigSection SystemConfig)
  | reading => inferInstanceAs (ConfigSection ReadingConfig)
  | preload => inferInstanceAs (ConfigSection PreloadConfig)

/-- Whether TOML can hold the section: its only integers are those of 64 bits with a sign. -/
def isHoldable : (kind : SectionKind) → kind.Config → Bool
  | preload, config => decide ((config.ahead.toNat : Int) ≤ Toml.greatestInteger)
  | _, _ => true

variable {kind : SectionKind} {value : kind.Config} {toml : Toml}

theorem toToml?_isSome : (ConfigSection.toToml? value).isSome = kind.isHoldable value := by
  cases kind with
  | system => rfl
  | reading => rfl
  | preload =>
    change ((Toml.ofUInt64? value.ahead).map _ |>.map Toml.table).isSome = decide _
    unfold Toml.ofUInt64?
    split <;> simp_all

/-- A section is read back from what is written for it. -/
theorem ofToml?_of_toToml? (hwritten : ConfigSection.toToml? value = some toml) :
    ConfigSection.ofToml? toml = some value := by
  cases kind with
  | system =>
    cases hwritten
    rfl
  | reading =>
    cases hwritten
    rfl
  | preload =>
    obtain ⟨entries, hentries, rfl⟩ := Option.map_eq_some_iff.mp hwritten
    obtain ⟨ahead, hahead, rfl⟩ := Option.map_eq_some_iff.mp hentries
    obtain ⟨_, hinteger⟩ := Option.ite_none_right_eq_some.mp hahead
    cases hinteger
    have hread : Toml.uint64? (.integer value.ahead.toNat) = some value.ahead := by
      simp [Toml.uint64?]
    change (Toml.uint64? (.integer value.ahead.toNat)).bind
      (fun ahead => some (PreloadConfig.mk ahead)) = some value
    rw [hread]
    rfl

end SectionKind

/-- What may be asked of a store. -/
inductive ConfigRequest
  /-- To be filled from a text. -/
  | fill (text : String)
  /-- To be filled from a file. -/
  | fillFrom (tree : FileTree) (path : Path)
  | get (kind : SectionKind) (name : String)
  | set (kind : SectionKind) (name : String) (value : kind.Config)

/-- What comes of a request. -/
inductive ConfigAnswer
  | done
  | refused (error : ConfigError)
  /-- The file is there and has no text. -/
  | unreadable (reason : FileError)
  | found (kind : SectionKind) (value : kind.Config)

namespace ConfigStore

/-- The section that is kept under a name. -/
def section? (store : ConfigStore) (name : String) : Option Toml :=
  store.sections?.bind (·[name]?)

/-- What is left of a store, and the answer, when a change is tried. -/
def attempt (store : ConfigStore) : Except ConfigError ConfigStore → ConfigStore × ConfigAnswer
  | .ok changed => (changed, .done)
  | .error error => (store, .refused error)

/-- What is left of a store after a request, and the answer. -/
def respond (store : ConfigStore) : ConfigRequest → ConfigStore × ConfigAnswer
  | .fill text => store.attempt (store.fill text)
  | .fillFrom tree path =>
    match Command.configText tree path with
    | .error reason => (store, .unreadable reason)
    | .ok text => store.attempt (store.fill text)
  | .get kind name => (store, .found kind (store.get kind.Config name))
  | .set _ name value => store.attempt (store.set name value)

/-- The store after all of the requests. -/
def after (store : ConfigStore) (requests : List ConfigRequest) : ConfigStore :=
  requests.foldl (fun store request => (store.respond request).1) store

end ConfigStore

namespace ConfigRequest

/-- The document that a request brings. A file that is not there is an empty one, and one that
cannot be read is none. -/
def document? : ConfigRequest → Option String
  | fill text => some text
  | fillFrom tree path => if tree.contains path then (tree.read path).toOption else some ""
  | get _ _ | set _ _ _ => none

/-- The section that a request brings for the name. -/
def section? (name : String) : ConfigRequest → Option Toml
  | set _ other value => if other = name then ConfigSection.toToml? value else none
  | fill _ | fillFrom _ _ | get _ _ => none

/-- The first document that is brought, and the requests after it. -/
def filling? : List ConfigRequest → Option (String × List ConfigRequest)
  | [] => none
  | request :: rest =>
    match request.document? with
    | some text => some (text, rest)
    | none => filling? rest

/-- Whether a document was brought. -/
def areFilling (requests : List ConfigRequest) : Bool := requests.any (·.document?.isSome)

/-- The section of the name as the requests have it: the last one brought since there is a document,
or else that of the document. A document that is not well formed has none. -/
def lastSection? (requests : List ConfigRequest) (name : String) : Option Toml :=
  (filling? requests).bind fun (text, later) =>
    (later.reverse.findSome? (section? name)).or
      ((Toml.parse? text).bind fun entries => entries.lookup name)

/-- The answer to a request that brings a document. -/
def documentAnswer (requests : List ConfigRequest) : ConfigAnswer :=
  if areFilling requests then .refused .alreadyInitialized else .done

/-- The answer to one more request. -/
def answer (requests : List ConfigRequest) : ConfigRequest → ConfigAnswer
  | fill _ => documentAnswer requests
  | fillFrom tree path =>
    match if tree.contains path then tree.read path else .ok "" with
    | .ok _ => documentAnswer requests
    | .error reason => .unreadable reason
  | get kind name =>
    .found kind (((lastSection? requests name).bind ConfigSection.ofToml?).getD
      ConfigSection.fallback)
  | set kind _ value =>
    if !areFilling requests then .refused .notInitialized
    else if !kind.isHoldable value then .refused .unrepresentable
    else .done

variable {requests : List ConfigRequest} {request : ConfigRequest}

theorem areFilling_eq : areFilling requests = (filling? requests).isSome := by
  induction requests with
  | nil => rfl
  | cons request rest ih =>
    rw [areFilling, List.any_cons, filling?]
    cases request.document? with
    | none => exact ih
    | some text => rfl

theorem filling?_concat :
    filling? (requests ++ [request]) =
      match filling? requests with
      | some (text, later) => some (text, later ++ [request])
      | none => request.document?.map (·, []) := by
  induction requests with
  | nil =>
    simp only [List.nil_append, filling?]
    cases request.document? <;> rfl
  | cons first rest ih =>
    rw [List.cons_append, filling?, filling?]
    cases first.document? with
    | none => exact ih
    | some text => rfl

/-- Where there is a document, one more request adds the section that it brings; where there is
none, it may bring one. -/
theorem lastSection?_concat {name : String} :
    lastSection? (requests ++ [request]) name =
      if areFilling requests then (request.section? name).or (lastSection? requests name)
      else request.document?.bind fun text =>
        (Toml.parse? text).bind fun entries => entries.lookup name := by
  rw [areFilling_eq, lastSection?, lastSection?, filling?_concat]
  cases filling? requests with
  | none => cases request.document? <;> rfl
  | some found =>
    obtain ⟨text, later⟩ := found
    simp only [Option.bind_some, List.reverse_append, List.reverse_singleton,
      List.singleton_append, List.findSome?_cons, Option.isSome_some, if_true]
    cases request.section? name <;> rfl

theorem lastSection?_eq_none {name : String} (hfilling : areFilling requests = false) :
    lastSection? requests name = none := by
  rw [areFilling_eq, Option.isSome_eq_false_iff, Option.isNone_iff_eq_none] at hfilling
  rw [lastSection?, hfilling, Option.bind_none]

theorem areFilling_concat :
    areFilling (requests ++ [request]) = (areFilling requests || request.document?.isSome) := by
  simp [areFilling]

end ConfigRequest

namespace ConfigStore

open ConfigRequest

variable {store changed : ConfigStore} {requests : List ConfigRequest} {request : ConfigRequest}
  {name : String}

/-- The sections of a document are its values, by name. -/
theorem getElem?_sectionsOf (text : String) :
    (sectionsOf text)[name]? = (Toml.parse? text).bind fun entries => entries.lookup name := by
  have hsections : sectionsOf text = Std.ExtTreeMap.insertMany ∅ ((Toml.parse? text).getD []) :=
    Std.ExtTreeMap.insertMany_list_eq_foldl.symm
  rw [hsections]
  cases hparse : Toml.parse? text with
  | none => simp
  | some entries =>
    rw [Option.getD_some, getElem?_insertMany_eq_or (Toml.nodup_keys_of_parse? hparse),
      Std.ExtTreeMap.getElem?_empty, Option.or_none]
    rfl

/-- The store holds what the requests tell. -/
structure Holds (requests : List ConfigRequest) (store : ConfigStore) : Prop where
  filled : store.isFilled = areFilling requests
  kept : ∀ name, store.section? name = lastSection? requests name

theorem get_eq (kind : SectionKind) :
    store.get kind.Config name =
      ((store.section? name).bind ConfigSection.ofToml?).getD ConfigSection.fallback :=
  rfl

theorem fill_eq_ok_iff {text : String} :
    store.fill text = .ok changed ↔
      store.isFilled = false ∧ changed = { sections? := some (sectionsOf text) } := by
  unfold fill
  cases store.isFilled <;> simp [eq_comm]

theorem fill_eq_error_iff {text : String} {error : ConfigError} :
    store.fill text = .error error ↔ store.isFilled = true ∧ error = .alreadyInitialized := by
  unfold fill
  cases store.isFilled <;> simp [eq_comm]

theorem section?_of_fill {text : String} (hfill : store.fill text = .ok changed) :
    changed.section? name = (Toml.parse? text).bind fun entries => entries.lookup name := by
  obtain ⟨_, rfl⟩ := fill_eq_ok_iff.mp hfill
  exact getElem?_sectionsOf text

/-- A section is set in a store that is filled, if TOML can hold it. -/
theorem set_eq_ok_iff {kind : SectionKind} {value : kind.Config} :
    store.set name value = .ok changed ↔
      ∃ sections toml, store.sections? = some sections ∧
        ConfigSection.toToml? value = some toml ∧
        changed = { sections? := some (sections.insert name toml) } := by
  unfold set
  cases store.sections? with
  | none => simp
  | some sections =>
    cases ConfigSection.toToml? value with
    | none => simp
    | some toml => simp [eq_comm]

/-- Otherwise the store is not filled, or TOML cannot hold the section. -/
theorem set_eq_error_iff {kind : SectionKind} {value : kind.Config} {error : ConfigError} :
    store.set name value = .error error ↔
      store.isFilled = false ∧ error = .notInitialized ∨
        store.isFilled = true ∧ kind.isHoldable value = false ∧ error = .unrepresentable := by
  rw [← SectionKind.toToml?_isSome]
  unfold set isFilled
  cases store.sections? with
  | none => simp [@eq_comm _ error]
  | some sections => cases ConfigSection.toToml? value <;> simp [@eq_comm _ error]

/-- Setting a section changes what is kept under its name, and nothing else. -/
theorem section?_of_set {kind : SectionKind} {value : kind.Config} {other : String}
    (hset : store.set name value = .ok changed) :
    changed.section? other =
      if name = other then ConfigSection.toToml? value else store.section? other := by
  obtain ⟨sections, toml, hsections, htoml, rfl⟩ := set_eq_ok_iff.mp hset
  simp [section?, hsections, htoml, Std.ExtTreeMap.getElem?_insert]

/-- A section is read as it was set. -/
theorem get_of_set {kind : SectionKind} {value : kind.Config}
    (hset : store.set name value = .ok changed) : changed.get kind.Config name = value := by
  obtain ⟨_, toml, _, htoml, _⟩ := set_eq_ok_iff.mp hset
  rw [get_eq, section?_of_set hset, if_pos rfl, htoml, Option.bind_some,
    SectionKind.ofToml?_of_toToml? htoml, Option.getD_some]

namespace Holds

theorem start : Holds [] {} := ⟨rfl, fun _ => rfl⟩

/-- A request that brings nothing leaves everything as it was. -/
theorem concat_of_nothing (hholds : Holds requests store) (hdocument : request.document? = none)
    (hsection : ∀ name, areFilling requests = true → request.section? name = none) :
    Holds (requests ++ [request]) store := by
  constructor
  · rw [hholds.filled, areFilling_concat, hdocument, Option.isSome_none, Bool.or_false]
  · intro name
    rw [hholds.kept, lastSection?_concat]
    cases hfilling : areFilling requests with
    | true => rw [if_pos rfl, hsection name hfilling, Option.none_or]
    | false => rw [lastSection?_eq_none hfilling, hdocument]; rfl

/-- A document fills the store unless it is filled. -/
theorem concat_of_document {text : String} (hholds : Holds requests store)
    (hdocument : request.document? = some text) (hsection : ∀ name, request.section? name = none) :
    Holds (requests ++ [request]) (store.attempt (store.fill text)).1 := by
  cases hfill : store.fill text with
  | error error =>
    have hfilled : areFilling requests = true := hholds.filled ▸ (fill_eq_error_iff.mp hfill).1
    constructor
    · change store.isFilled = _
      rw [hholds.filled, areFilling_concat, hfilled, Bool.true_or]
    · intro name
      change store.section? name = _
      rw [hholds.kept, lastSection?_concat, hfilled, if_pos rfl, hsection, Option.none_or]
  | ok changed =>
    have hempty : areFilling requests = false := hholds.filled ▸ (fill_eq_ok_iff.mp hfill).1
    constructor
    · obtain ⟨_, rfl⟩ := fill_eq_ok_iff.mp hfill
      rw [areFilling_concat, hdocument, Option.isSome_some, Bool.or_true]
      rfl
    · intro name
      change changed.section? name = _
      rw [section?_of_fill hfill, lastSection?_concat, hempty, hdocument]
      rfl

theorem concat_set {kind : SectionKind} (hholds : Holds requests store) (name : String)
    (value : kind.Config) :
    Holds (requests ++ [.set kind name value]) (store.attempt (store.set name value)).1 := by
  cases hset : store.set name value with
  | error error =>
    refine hholds.concat_of_nothing rfl fun other hfilling => ?_
    rcases set_eq_error_iff.mp hset with ⟨hempty, _⟩ | ⟨_, hheld, _⟩
    · rw [hholds.filled, hfilling] at hempty
      cases hempty
    · rw [← SectionKind.toToml?_isSome, Option.isSome_eq_false_iff,
        Option.isNone_iff_eq_none] at hheld
      rw [ConfigRequest.section?, hheld, ite_self]
  | ok changed =>
    obtain ⟨sections, toml, hsections, htoml, rfl⟩ := set_eq_ok_iff.mp hset
    have hfilled : areFilling requests = true := by
      rw [← hholds.filled, isFilled, hsections, Option.isSome_some]
    constructor
    · rw [areFilling_concat, hfilled, Bool.true_or]
      rfl
    · intro other
      change ConfigStore.section? { sections? := some (sections.insert name toml) } other = _
      rw [section?_of_set hset, lastSection?_concat, hfilled, if_pos rfl, ConfigRequest.section?,
        ← hholds.kept]
      by_cases hname : name = other
      · rw [if_pos hname, if_pos hname, htoml, Option.some_or]
      · rw [if_neg hname, if_neg hname, Option.none_or]

/-- One more request is made of the store as of the history. -/
theorem respond (hholds : Holds requests store) (request : ConfigRequest) :
    Holds (requests ++ [request]) (store.respond request).1 := by
  cases request with
  | fill text => exact hholds.concat_of_document rfl fun _ => rfl
  | fillFrom tree path =>
    have hdocument : (fillFrom tree path).document? =
        (Command.configText tree path).toOption := by
      rw [document?, Command.configText]
      by_cases hthere : tree.contains path = true
      · rw [if_pos hthere, if_pos hthere]
      · rw [if_neg hthere, if_neg hthere]
        rfl
    rw [ConfigStore.respond]
    cases htext : Command.configText tree path with
    | error reason =>
      rw [htext] at hdocument
      exact hholds.concat_of_nothing hdocument fun _ _ => rfl
    | ok text =>
      rw [htext] at hdocument
      exact hholds.concat_of_document hdocument fun _ => rfl
  | get kind name => exact hholds.concat_of_nothing rfl fun _ _ => rfl
  | set kind name value => exact hholds.concat_set name value

/-- By induction on the requests, so are all of them. -/
theorem after (hholds : Holds requests store) (further : List ConfigRequest) :
    Holds (requests ++ further) (store.after further) := by
  induction further generalizing requests store with
  | nil =>
    rw [List.append_nil]
    exact hholds
  | cons request rest ih =>
    rw [List.append_cons]
    exact ih (hholds.respond request)

/-- The answer of the store is the one that the requests tell. -/
theorem answer_eq (hholds : Holds requests store) (request : ConfigRequest) :
    (store.respond request).2 = answer requests request := by
  have hfilled : ∀ text, (store.attempt (store.fill text)).2 = documentAnswer requests := by
    intro text
    rw [documentAnswer, ← hholds.filled]
    cases hfill : store.fill text with
    | error error =>
      obtain ⟨hfull, rfl⟩ := fill_eq_error_iff.mp hfill
      rw [hfull, if_pos rfl]
      rfl
    | ok changed =>
      obtain ⟨hempty, _⟩ := fill_eq_ok_iff.mp hfill
      rw [hempty]
      rfl
  cases request with
  | fill text => exact hfilled text
  | fillFrom tree path =>
    change _ = match Command.configText tree path with
      | .ok _ => documentAnswer requests
      | .error reason => .unreadable reason
    rw [ConfigStore.respond]
    cases Command.configText tree path with
    | error reason => rfl
    | ok text => exact hfilled text
  | get kind name =>
    change ConfigAnswer.found kind (store.get kind.Config name) = _
    rw [get_eq, hholds.kept, answer]
  | set kind name value =>
    rw [answer, ← hholds.filled, ConfigStore.respond]
    cases hset : store.set name value with
    | error error =>
      rcases set_eq_error_iff.mp hset with ⟨hempty, rfl⟩ | ⟨hfull, hheld, rfl⟩
      · rw [hempty]
        rfl
      · rw [hfull, hheld]
        rfl
    | ok changed =>
      obtain ⟨sections, toml, hsections, htoml, _⟩ := set_eq_ok_iff.mp hset
      have hfull : store.isFilled = true := by rw [isFilled, hsections, Option.isSome_some]
      have hheld : kind.isHoldable value = true := by
        rw [← SectionKind.toToml?_isSome, htoml, Option.isSome_some]
      rw [hfull, hheld]
      rfl

end Holds

/-- A request that is not answered with success leaves the store as it was. -/
theorem respond_fst_of_ne_done (hanswer : (store.respond request).2 ≠ .done) :
    (store.respond request).1 = store := by
  have hattempt : ∀ result, (store.attempt result).2 ≠ .done →
      (store.attempt result).1 = store := by
    intro result hresult
    cases result with
    | error error => rfl
    | ok changed => exact absurd rfl hresult
  cases request with
  | fill text => exact hattempt _ hanswer
  | fillFrom tree path =>
    rw [respond] at hanswer ⊢
    cases htext : Command.configText tree path with
    | error reason => rfl
    | ok text =>
      rw [htext] at hanswer
      exact hattempt _ hanswer
  | get kind name => rfl
  | set kind name value => exact hattempt _ hanswer

/-- A request to set a section that is answered with success sets it. -/
theorem set_eq_ok_of_respond {kind : SectionKind} {value : kind.Config}
    (hanswer : (store.respond (.set kind name value)).2 = .done) :
    store.set name value = .ok (store.respond (.set kind name value)).1 := by
  rw [respond] at hanswer ⊢
  cases hset : store.set name value with
  | error error =>
    rw [hset] at hanswer
    cases hanswer
  | ok changed => rfl

/-- The language is chosen by setting a section of texts, so in a store that is filled it can
always be chosen. -/
theorem chooseLanguage_eq_ok (hfilled : store.isFilled = true) (language : String) :
    ∃ changed, Command.chooseLanguage store (some language) = .ok changed ∧
      changed.get ReadingConfig DefaultConfig.readingName =
        { store.get ReadingConfig DefaultConfig.readingName with language } ∧
      ∀ other, other ≠ DefaultConfig.readingName →
        changed.section? other = store.section? other := by
  obtain ⟨sections, hsections⟩ := Option.isSome_iff_exists.mp hfilled
  let chosen : SectionKind.reading.Config :=
    { store.get ReadingConfig DefaultConfig.readingName with language }
  have hset : store.set DefaultConfig.readingName chosen = .ok _ :=
    set_eq_ok_iff.mpr ⟨sections, _, hsections, rfl, rfl⟩
  refine ⟨_, hset, get_of_set hset, fun other hother => ?_⟩
  rw [section?_of_set hset, if_neg hother.symm]

/-- The store is what its history says, and a step from it does no more than the history has of
it. -/
structure FollowsHistory (requests : List ConfigRequest) (store : ConfigStore) : Prop
    extends Holds requests store where
  /-- The answer to one more request is the one that the history gives. -/
  answers : ∀ request, (store.respond request).2 = answer requests request
  /-- What fails, and what only asks, leaves the store as it was. -/
  unchanged : ∀ request, (store.respond request).2 ≠ .done → (store.respond request).1 = store
  /-- A section that is set leaves what is kept under other names as it was. -/
  others : ∀ kind name value, (store.respond (.set kind name value)).2 = .done → ∀ other,
    other ≠ name → (store.respond (.set kind name value)).1.section? other = store.section? other
  /-- A section that is set is read as it was set. -/
  readBack : ∀ kind name value, (store.respond (.set kind name value)).2 = .done →
    (store.respond (.set kind name value)).1.get kind.Config name = value
  /-- Choosing a language changes the language of one section, and no other section. -/
  language : store.isFilled = true → ∀ language,
    ∃ changed, Command.chooseLanguage store (some language) = .ok changed ∧
      changed.get ReadingConfig DefaultConfig.readingName =
        { store.get ReadingConfig DefaultConfig.readingName with language } ∧
      ∀ other, other ≠ DefaultConfig.readingName → changed.section? other = store.section? other

/-- Whatever was asked of a store, failures included, it is what its history says: the first
document that was brought, and the sections set since. -/
theorem followsHistory_after (requests : List ConfigRequest) :
    FollowsHistory requests (ConfigStore.after {} requests) := by
  have hholds : Holds requests (ConfigStore.after {} requests) := Holds.start.after requests
  refine { hholds with
    answers := hholds.answer_eq
    unchanged := fun _ => respond_fst_of_ne_done
    others := fun kind name value hanswer other hother => ?_
    readBack := fun kind name value hanswer => get_of_set (set_eq_ok_of_respond hanswer)
    language := chooseLanguage_eq_ok }
  rw [section?_of_set (set_eq_ok_of_respond hanswer), if_neg hother.symm]

/-- A second document counts for nothing, and a section that is set replaces all of the old one. -/
example :
    let requests : List ConfigRequest :=
      [.fill "[scanner]\npreload_ahead = 3\n[translate]\nuser_name = 'Noa'",
        .fill "[scanner]\npreload_ahead = 4",
        .set .reading "translate" ({ language := "en" } : ReadingConfig)]
    (lastSection? requests "scanner").bind PreloadConfig.ofToml? = some { ahead := 3 } ∧
      (lastSection? requests "translate").bind ReadingConfig.ofToml? =
        some { language := "en", player := "先生" } := by
  decide +kernel

end ConfigStore

end VisualNovel
