/-
# What is loaded ahead

The addresses that are loaded ahead are told by what they are: those of the next units, up to the
next choice, each of them once. They can as well be told by how they are collected. One goes through
the units from the position on, with three lists that grow, adds to each list what a unit needs and
is not listed yet, and leaves off when the number of units is used up or a choice has been met. This
module shows that both come to the same, and what it is: every address that a unit looked at needs
is listed, and nothing else; none is listed twice; and they stand in the order in which they are
needed first. So looking further ahead never changes what is listed already.
-/

import Mathlib.Data.List.Induction
import Mathlib.Data.List.Nodup
import VisualNovel.Playback.Preload

namespace VisualNovel

/-- The list holds the addresses, each once, in the order in which they first occur. -/
structure FirstOccurrences (urls listed : List String) : Prop where
  once : listed.Nodup
  mem_iff : ∀ url, url ∈ listed ↔ url ∈ urls
  ordered : listed.Pairwise fun earlier later => urls.idxOf earlier < urls.idxOf later

namespace Preload

/-- Puts an address at the end of the list, unless it is listed already. -/
def listing (listed : List String) (url : String) : List String :=
  if url ∈ listed then listed else listed ++ [url]

/-- Lists what one more unit needs. -/
def withUnit (preload : Preload) (unit : StoryUnit) : Preload where
  images := unit.imageUrls.foldl listing preload.images
  models := unit.modelUrls.foldl listing preload.models
  audio := unit.audioUrls.foldl listing preload.audio

/-- Goes through the units, at most `ahead` of them, and leaves off behind a choice. -/
def collect (preload : Preload) : Nat → List StoryUnit → Preload
  | 0, _ => preload
  | _ + 1, [] => preload
  | ahead + 1, unit :: rest =>
    let listed := preload.withUnit unit
    if unit.kind = .choice then listed else listed.collect ahead rest

/-- What the units need. -/
def needed (units : List StoryUnit) : Preload where
  images := (units.flatMap (·.imageUrls)).eraseDups
  models := (units.flatMap (·.modelUrls)).eraseDups
  audio := (units.flatMap (·.audioUrls)).eraseDups

/-- The second preload lists what the first one lists, and more at the end only. -/
structure IsBeginningOf (first second : Preload) : Prop where
  images : first.images <+: second.images
  models : first.models <+: second.models
  audio : first.audio <+: second.audio

end Preload

variable {urls listed : List String}

namespace FirstOccurrences

/-- Where something comes first does not change when there is more at the end. -/
theorem ordered_append (hfirst : FirstOccurrences urls listed) (more : List String) :
    listed.Pairwise fun earlier later =>
      (urls ++ more).idxOf earlier < (urls ++ more).idxOf later := by
  refine hfirst.ordered.imp_of_mem fun {earlier later} hearlier hlater hlt => ?_
  rwa [List.idxOf_append_of_mem ((hfirst.mem_iff _).mp hearlier),
    List.idxOf_append_of_mem ((hfirst.mem_iff _).mp hlater)]

/-- One more address is listed at the end, if it is new. -/
theorem listing (hfirst : FirstOccurrences urls listed) (url : String) :
    FirstOccurrences (urls ++ [url]) (Preload.listing listed url) := by
  have hordered := hfirst.ordered_append [url]
  rw [Preload.listing]
  split
  case isTrue hlisted =>
    refine ⟨hfirst.once, fun other => ?_, hordered⟩
    rw [List.mem_append, List.mem_singleton, hfirst.mem_iff, iff_self_or]
    rintro rfl
    exact (hfirst.mem_iff other).mp hlisted
  case isFalse hnew =>
    have habsent : url ∉ urls := fun hmem => hnew ((hfirst.mem_iff url).mpr hmem)
    refine ⟨List.concat_eq_append ▸ List.Nodup.concat hnew hfirst.once, fun other => ?_, ?_⟩
    · rw [List.mem_append, List.mem_append, hfirst.mem_iff]
    · refine List.pairwise_append.mpr ⟨hordered, List.pairwise_singleton _ _, ?_⟩
      intro earlier hearlier later hlater
      have hmem := (hfirst.mem_iff earlier).mp hearlier
      rw [List.mem_singleton.mp hlater, List.idxOf_append_of_mem hmem,
        List.idxOf_append_of_notMem habsent]
      exact Nat.lt_add_right _ (List.idxOf_lt_length_of_mem hmem)

/-- Only one list holds the addresses in this way. -/
theorem unique {other : List String} (hfirst : FirstOccurrences urls listed)
    (hother : FirstOccurrences urls other) : listed = other := by
  refine List.Perm.eq_of_pairwise (fun earlier later _ _ hlt hgt => ?_) hfirst.ordered
    hother.ordered ?_
  · exact absurd hgt (Nat.lt_asymm hlt)
  · refine (List.perm_ext_iff_of_nodup hfirst.once hother.once).mpr fun url => ?_
    rw [hfirst.mem_iff, hother.mem_iff]

end FirstOccurrences

theorem eraseDups_concat (urls : List String) (url : String) :
    (urls ++ [url]).eraseDups = Preload.listing urls.eraseDups url := by
  have hsingle : [url].eraseDups = [url] := rfl
  rw [List.eraseDups_append, List.removeAll, List.filter_singleton, Preload.listing]
  by_cases hlisted : url ∈ urls <;> simp [hlisted, hsingle]

/-- Dropping the repetitions of the addresses leaves the list that holds each once. -/
theorem firstOccurrences_iff : FirstOccurrences urls listed ↔ listed = urls.eraseDups := by
  have hfirst : FirstOccurrences urls urls.eraseDups := by
    induction urls using List.reverseRecOn with
    | nil => exact ⟨.nil, fun _ => .rfl, .nil⟩
    | append_singleton urls url ih =>
      rw [eraseDups_concat]
      exact ih.listing url
  constructor
  · intro hlisted
    exact hlisted.unique hfirst
  · rintro rfl
    exact hfirst

namespace Preload

theorem audioUrls_eq (unit : StoryUnit) :
    unit.audioUrls =
      ((unit.audio.bind (·.music)).map (·.url)).toList ++ (unit.audio.bind (·.sound)).toList ++
        (unit.audio.bind (·.voice)).toList ++ (unit.video.map (·.sound)).toList := by
  rw [StoryUnit.audioUrls]
  cases unit.audio <;> rfl

theorem foldl_listing (listed urls : List String) :
    urls.foldl listing listed.eraseDups = (listed ++ urls).eraseDups := by
  induction urls generalizing listed with
  | nil => rw [List.append_nil, List.foldl_nil]
  | cons url rest ih =>
    rw [List.foldl_cons, ← eraseDups_concat, ih, List.append_assoc, List.singleton_append]

theorem needed_concat (seen : List StoryUnit) (unit : StoryUnit) :
    needed (seen ++ [unit]) = (needed seen).withUnit unit := by
  simp only [needed, withUnit, foldl_listing, List.flatMap_append, List.flatMap_singleton]

theorem needed_isBeginningOf (seen more : List StoryUnit) :
    (needed seen).IsBeginningOf (needed (seen ++ more)) := by
  constructor <;>
  · simp only [needed, List.flatMap_append, List.eraseDups_append]
    exact List.prefix_append _ _

/-- The units up to the first choice are cut just behind it. -/
theorem throughChoice_eq_take (units : List StoryUnit) :
    throughChoice units = units.take (units.findIdx (·.kind = .choice) + 1) := by
  induction units with
  | nil => rfl
  | cons unit rest ih =>
    rw [throughChoice, List.findIdx_cons, List.take_succ_cons]
    by_cases hchoice : unit.kind = .choice
    · simp [hchoice]
    · simp [hchoice, ih]

/-- With more units at the end, there are the same units up to the first choice, or further ones
behind them. -/
theorem throughChoice_prefix (units more : List StoryUnit) :
    throughChoice units <+: throughChoice (units ++ more) := by
  induction units with
  | nil => exact List.nil_prefix
  | cons unit rest ih =>
    rw [List.cons_append, throughChoice, throughChoice]
    split
    · exact List.prefix_rfl
    · exact (List.prefix_cons_inj unit).mpr ih

theorem window_prefix (units : List StoryUnit) (start ahead more : Nat) :
    window units start ahead <+: window units start (ahead + more) := by
  rw [window, window, List.take_add]
  exact throughChoice_prefix _ _

/-- Going on collecting behind some units gives what these units need and what the next ones do. -/
theorem collect_needed (seen : List StoryUnit) (ahead : Nat) (units : List StoryUnit) :
    (needed seen).collect ahead units = needed (seen ++ throughChoice (units.take ahead)) := by
  induction units generalizing seen ahead with
  | nil =>
    rw [List.take_nil, throughChoice, List.append_nil]
    cases ahead <;> rfl
  | cons unit rest ih =>
    cases ahead with
    | zero => rw [List.take_zero, throughChoice, List.append_nil, collect]
    | succ ahead =>
      rw [collect, ← needed_concat, List.take_succ_cons, throughChoice]
      split
      · rfl
      · rw [ih, List.append_assoc, List.singleton_append]

theorem scan_eq_collect (units : List StoryUnit) (start ahead : Nat) :
    scan units start ahead = collect ⟨[], [], []⟩ ahead (units.drop start) :=
  (collect_needed [] ahead (units.drop start)).symm

theorem scan_isBeginningOf (units : List StoryUnit) (start ahead more : Nat) :
    (scan units start ahead).IsBeginningOf (scan units start (ahead + more)) := by
  obtain ⟨further, hfurther⟩ := window_prefix units start ahead more
  have hscan : scan units start (ahead + more) = needed (window units start ahead ++ further) :=
    congrArg needed hfurther.symm
  rw [hscan]
  exact needed_isBeginningOf _ further

/-- Of the units from the position on, at most `ahead` are looked at, and none behind the first
choice. One pass over them collects every address that they need, each once, in the order in which
they are needed first, and no other; and looking further ahead adds addresses at the ends only. -/
theorem scan_lists (units : List StoryUnit) (start ahead : Nat) :
    let near := (units.drop start).take ahead
    let seen := near.take (near.findIdx (·.kind = .choice) + 1)
    let preload := scan units start ahead
    preload = collect ⟨[], [], []⟩ ahead (units.drop start) ∧
      FirstOccurrences
        (seen.flatMap fun unit => (unit.background.map (·.url)).toList ++ unit.popup.toList)
        preload.images ∧
      FirstOccurrences
        (seen.flatMap fun unit => (unit.live2d.map (·.url)).toList ++ unit.cast.map (·.model))
        preload.models ∧
      FirstOccurrences
        (seen.flatMap fun unit =>
          ((unit.audio.bind (·.music)).map (·.url)).toList ++ (unit.audio.bind (·.sound)).toList ++
            (unit.audio.bind (·.voice)).toList ++ (unit.video.map (·.sound)).toList)
        preload.audio ∧
      ∀ more, preload.IsBeginningOf (scan units start (ahead + more)) := by
  intro near seen preload
  have hpreload : preload = needed seen := congrArg needed (throughChoice_eq_take near)
  have himages : preload.images = _ := congrArg images hpreload
  have hmodels : preload.models = _ := congrArg models hpreload
  have haudio : preload.audio = _ := congrArg audio hpreload
  refine ⟨scan_eq_collect units start ahead, firstOccurrences_iff.mpr himages,
    firstOccurrences_iff.mpr hmodels, ?_, scan_isBeginningOf units start ahead⟩
  simp only [← audioUrls_eq]
  exact firstOccurrences_iff.mpr haudio

/-- What is behind a choice is not loaded, and what is shown twice is loaded once. -/
example :
    (scan [{ popup := some "/a" }, { kind := .choice, popup := some "/a" }, { popup := some "/b" }]
      0 3).images = ["/a"] := by decide

end Preload
end VisualNovel
