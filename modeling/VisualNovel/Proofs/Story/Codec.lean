/-
# Units and stories read back

What is written of a story is read back as it was: every unit with all that it has to see, to hear
and to read, and the story with its units and its registry. Only the diagnostics are not written. So
no two units are written alike.

Numbers in single precision stand in the music of a unit, and nowhere else. Whether such a number is
read back from its shortest decimal is not looked into here; it is a hypothesis on the numbers that
a unit has. Infinity, which is written as null, does not satisfy it. What is written and read here
are values of JSON, not their texts.
-/

import VisualNovel.Proofs.Entries
import VisualNovel.Proofs.Json.ReadBack
import VisualNovel.Staging.Story

namespace VisualNovel

open Json

theorem Json.nullable?_ofOption_str (text : Option String) :
    (ofOption str text).nullable? text? = some text :=
  nullable?_ofOption (fun _ => nofun) fun _ _ => rfl

theorem Json.nullable?_ofOption_uint32 (n : Option UInt32) :
    (ofOption (fun n => ofNat n.toNat) n).nullable? uint32? = some n :=
  nullable?_ofOption (fun _ => nofun) fun n _ => uint32?_ofNat n

attribute [simp] Json.nullable?_ofOption_str Json.nullable?_ofOption_uint32

theorem RunEffect.ofJson?_toJson (effect : RunEffect) : ofJson? effect.toJson = some effect := by
  cases effect <;> simp [ofJson?, toJson, name, named?, plain?, Fields.lookup?]

theorem Run.ofJson?_toJson (run : Run) : ofJson? run.toJson = some run := by
  simp [ofJson?, toJson, list?_ofList fun effect _ => RunEffect.ofJson?_toJson effect]

theorem Speaker.ofJson?_toJson (speaker : Speaker) : ofJson? speaker.toJson = some speaker := by
  simp [ofJson?, toJson]

theorem Choice.ofJson?_toJson (choice : Choice) : ofJson? choice.toJson = some choice := by
  simp [ofJson?, toJson]

@[simp] theorem FloatingMode.ofJson?_str (mode : FloatingMode) :
    ofJson? (str mode.name) = some mode := by
  cases mode <;> rfl

theorem FloatingPlacement.ofJson?_toJson (placement : FloatingPlacement) :
    ofJson? placement.toJson = some placement := by
  simp [ofJson?, toJson]

theorem FloatingText.ofJson?_toJson (text : FloatingText) : ofJson? text.toJson = some text := by
  have hplacement : (ofOption FloatingPlacement.toJson text.placement).nullable?
      FloatingPlacement.ofJson? = some text.placement :=
    nullable?_ofOption (fun _ => nofun) fun placement _ => placement.ofJson?_toJson
  simp [ofJson?, toJson, hplacement]

theorem TitleCard.ofJson?_toJson (card : TitleCard) : ofJson? card.toJson = some card := by
  simp [ofJson?, toJson]

theorem UnitText.ofJson?_toJson (text : UnitText) : ofJson? text.toJson = some text := by
  have hspeaker : (ofOption Speaker.toJson text.speaker).nullable? Speaker.ofJson? =
      some text.speaker :=
    nullable?_ofOption (fun _ => nofun) fun speaker _ => speaker.ofJson?_toJson
  have hspoken : spokenOfJson? text.spokenToJson = some (text.runs, text.speaker) := by
    simp [spokenOfJson?, spokenToJson, hspeaker,
      list?_ofList fun run _ => Run.ofJson?_toJson run]
  have hfloating : (ofOption FloatingText.toJson text.floating).nullable? FloatingText.ofJson? =
      some text.floating :=
    nullable?_ofOption (fun _ => nofun) fun floating _ => floating.ofJson?_toJson
  have htitle : (ofOption TitleCard.toJson text.title).nullable? TitleCard.ofJson? =
      some text.title :=
    nullable?_ofOption (fun _ => nofun) fun card _ => card.ofJson?_toJson
  simp [ofJson?, toJson, hspoken, hfloating, htitle,
    list?_ofList fun choice _ => Choice.ofJson?_toJson choice]

@[simp] theorem EffectKind.ofJson?_str (kind : EffectKind) :
    ofJson? (str kind.name) = some kind := by
  cases kind <;> rfl

theorem CharacterEffect.ofJson?_toJson (effect : CharacterEffect) :
    ofJson? effect.toJson = some effect := by
  simp [ofJson?, toJson]

theorem StagedCharacter.ofJson?_toJson (character : StagedCharacter) :
    ofJson? character.toJson = some character := by
  simp [ofJson?, toJson,
    list?_ofList fun effect _ => CharacterEffect.ofJson?_toJson effect]

/-- The shortest decimal of the number is read as the number. -/
def Json.IsExact (x : Float32) : Prop := single? (ofSingle x) = some x

instance (x : Float32) : Decidable (Json.IsExact x) :=
  inferInstanceAs (Decidable (single? (ofSingle x) = some x))

/-- The volume and the times of the loop are read as they are written. -/
structure Music.HasExactNumbers (music : Music) : Prop where
  volume : Json.IsExact music.volume
  loopStart : Json.IsExact music.loopStart
  loopEnd : Json.IsExact music.loopEnd
  loopTransition : Json.IsExact music.loopTransition
  loopOffset : Json.IsExact music.loopOffset

theorem Music.ofJson?_toJson {music : Music} (hmusic : music.HasExactNumbers) :
    ofJson? music.toJson = some music := by
  obtain ⟨hvolume, hstart, hend, htransition, hoffset⟩ := hmusic
  simp only [Json.IsExact] at hvolume hstart hend htransition hoffset
  simp [ofJson?, toJson, ofLoopJson?, loopToJson, hvolume, hstart, hend, htransition,
    hoffset]

theorem UnitAudio.ofJson?_toJson {audio : UnitAudio}
    (hmusic : ∀ music, audio.music = some music → music.HasExactNumbers) :
    ofJson? audio.toJson = some audio := by
  have hread : (ofOption Music.toJson audio.music).nullable? Music.ofJson? = some audio.music :=
    nullable?_ofOption (fun _ => nofun) fun music hsome => Music.ofJson?_toJson (hmusic music hsome)
  simp [ofJson?, toJson, hread]

theorem Background.ofJson?_toJson (background : Background) :
    ofJson? background.toJson = some background := by
  simp [ofJson?, toJson]

theorem Live2d.ofJson?_toJson (live2d : Live2d) : ofJson? live2d.toJson = some live2d := by
  simp [ofJson?, toJson]

theorem TransitionRecord.ofJson?_toJson (record : TransitionRecord) :
    ofJson? record.toJson = some record := by
  simp [ofJson?, toJson, record?]

theorem BackgroundEffectRecord.ofJson?_toJson (record : BackgroundEffectRecord) :
    ofJson? record.toJson = some record := by
  simp [ofJson?, toJson, record?]

theorem Live2dConfig.ofJson?_toJson (config : Live2dConfig) :
    ofJson? config.toJson = some config := by
  simp [ofJson?, toJson, record?, list?_ofList fun text _ => text?_str text]

/-- An effect on the screen is an object of values without parts, so it is read as a whole. -/
theorem ScreenEffect.isWhole_toJson {around : Nat} (haround : around < depthLimit)
    (effect : ScreenEffect) : effect.toJson.isWhole around = true := by
  cases effect <;>
    simp [toJson, isWhole, isReadable, fieldsAreReadable, depth, depthOfFields, ofNat,
      Nat.succ_le_of_lt haround]

theorem ScreenEffect.ofJson?_toJson {around : Nat} (haround : around < depthLimit)
    (effect : ScreenEffect) : ofJson? around effect.toJson = some effect := by
  unfold ofJson?
  rw [effect.isWhole_toJson haround]
  cases effect <;> simp [toJson, fields?, ofFields?, guard]

theorem UnitEffect.ofJson?_toJson {around : Nat} (haround : around + 2 < depthLimit)
    (effect : UnitEffect) : ofJson? around effect.toJson = some effect := by
  have hbackground : (ofOption BackgroundEffectRecord.toJson effect.background).nullable?
      BackgroundEffectRecord.ofJson? = some effect.background :=
    nullable?_ofOption (fun _ => nofun) fun record _ => record.ofJson?_toJson
  simp [ofJson?, toJson, hbackground,
    list?_ofList fun effect _ => ScreenEffect.ofJson?_toJson haround effect]

theorem Hidden.ofJson?_str (hidden : Hidden) : ofJson? (str hidden.name) = some hidden := by
  cases hidden <;> rfl

theorem Video.ofJson?_toJson (video : Video) : ofJson? video.toJson = some video := by
  simp [ofJson?, toJson]

@[simp] theorem UnitKind.ofJson?_str (kind : UnitKind) : ofJson? (str kind.name) = some kind := by
  cases kind <;> rfl

namespace StoryUnit

/-- The numbers of the music of the unit are read as they are written. -/
def HasExactNumbers (unit : StoryUnit) : Prop :=
  ∀ audio, unit.audio = some audio → ∀ music, audio.music = some music → music.HasExactNumbers

/-- A unit is read back, as long as the nesting around it leaves room for its effects. -/
theorem ofJsonWithin?_toJson {around : Nat} (haround : around + 3 < depthLimit) {unit : StoryUnit}
    (hunit : unit.HasExactNumbers) : ofJsonWithin? around unit.toJson = some unit := by
  have haudio : (ofOption UnitAudio.toJson unit.audio).nullable? UnitAudio.ofJson? =
      some unit.audio :=
    nullable?_ofOption (fun _ => nofun) fun audio hsome =>
      UnitAudio.ofJson?_toJson (hunit audio hsome)
  have hbackground : (ofOption Background.toJson unit.background).nullable? Background.ofJson? =
      some unit.background :=
    nullable?_ofOption (fun _ => nofun) fun background _ => background.ofJson?_toJson
  have hlive2d : (ofOption Live2d.toJson unit.live2d).nullable? Live2d.ofJson? =
      some unit.live2d :=
    nullable?_ofOption (fun _ => nofun) fun live2d _ => live2d.ofJson?_toJson
  have htransition : (ofOption TransitionRecord.toJson unit.transition).nullable?
      TransitionRecord.ofJson? = some unit.transition :=
    nullable?_ofOption (fun _ => nofun) fun record _ => record.ofJson?_toJson
  have hhidden : (ofOption (fun hidden => str (Hidden.name hidden)) unit.hidden).nullable?
      Hidden.ofJson? = some unit.hidden :=
    nullable?_ofOption (fun _ => nofun) fun hidden _ => hidden.ofJson?_str
  have hvideo : (ofOption Video.toJson unit.video).nullable? Video.ofJson? = some unit.video :=
    nullable?_ofOption (fun _ => nofun) fun video _ => video.ofJson?_toJson
  have hmenu : (if unit.showsMenu then str "menu" else null).nullable? menuOfJson? =
      some (if unit.showsMenu then some () else none) := by
    cases unit.showsMenu <;> rfl
  have hshown : (if unit.showsMenu then some () else none).isSome = unit.showsMenu := by
    cases unit.showsMenu <;> rfl
  have heffect : UnitEffect.ofJson? (around + 1) unit.effect.toJson = some unit.effect :=
    UnitEffect.ofJson?_toJson haround unit.effect
  have hcast := list?_ofList fun character (_ : character ∈ unit.cast) => character.ofJson?_toJson
  rw [ofJsonWithin?, toJson, fullRecord?_obj, Option.bind_eq_bind, Option.bind_some]
  -- Every field is looked up before any of the values is bound, so each lookup is done once.
  simp only [Fields.required?_cons_self, Fields.required?_cons_of_ne, Fields.optional?_cons_self,
    Fields.optional?_cons_of_ne, List.map_cons, List.map_nil, List.mem_cons, List.not_mem_nil,
    String.reduceEq, or_self, not_false_eq_true, ne_eq, uint64?_ofNat, uint32?_ofNat,
    UnitKind.ofJson?_str, UnitText.ofJson?_toJson, nullable?_ofOption_str, hcast, haudio,
    hbackground, hlive2d, htransition, heffect, hhidden, hmenu, hvideo]
  change some { unit with showsMenu := (if unit.showsMenu then some () else none).isSome } = _
  rw [hshown]

theorem ofJson?_toJson {unit : StoryUnit} (hunit : unit.HasExactNumbers) :
    ofJson? unit.toJson = some unit :=
  ofJsonWithin?_toJson (by decide) hunit

/-- Units that are written alike are the same unit. -/
theorem eq_of_toJson_eq {unit other : StoryUnit} (hunit : unit.HasExactNumbers)
    (hother : other.HasExactNumbers) (htoJson : unit.toJson = other.toJson) : unit = other := by
  have hread := ofJson?_toJson hunit
  rw [htoJson, ofJson?_toJson hother] at hread
  exact (Option.some.inj hread).symm

end StoryUnit

/-- Configurations that are written under names fill a registry when they are read. -/
theorem Live2dRegistry.foldlM_toJson (entries : List (String × Live2dConfig))
    (registry : Live2dRegistry) :
    (entries.map fun (name, config) => (name, config.toJson)).foldlM (fun registry (name, value) =>
      (Live2dConfig.ofJson? value).map fun config => registry.insert name config) registry =
        some (registry.insertMany entries) := by
  induction entries generalizing registry with
  | nil => rfl
  | cons first rest ih =>
    obtain ⟨name, config⟩ := first
    simp only [List.map_cons, List.foldlM_cons, Live2dConfig.ofJson?_toJson, Option.map_some,
      Std.ExtTreeMap.insertMany_cons]
    exact ih (registry.insert name config)

/-- A registry is read back, because it is written with its names and they fill it again. -/
theorem Live2dRegistry.ofJson?_toJson (registry : Live2dRegistry) :
    ofJson? (toJson registry) = some registry := by
  have hfill := foldlM_toJson registry.toList ∅
  rw [insertMany_toList] at hfill
  exact hfill

/-- A story is read back without its diagnostics. -/
theorem Story.ofJson?_toJson {story : Story} (hunits : ∀ unit ∈ story.units, unit.HasExactNumbers) :
    ofJson? story.toJson = some { story with diagnostics := [] } := by
  have hread : (ofList StoryUnit.toJson story.units).list? (StoryUnit.ofJsonWithin? 2) =
      some story.units :=
    list?_ofList fun unit hunit => StoryUnit.ofJsonWithin?_toJson (by decide) (hunits unit hunit)
  simp [ofJson?, toJson, hread, Live2dRegistry.ofJson?_toJson]

/-- What is written of a unit or a story is read back as it was, the diagnostics of a story aside,
and no two units are written alike. -/
theorem Story.readBack_of_exactNumbers :
    (∀ unit : StoryUnit, unit.HasExactNumbers → StoryUnit.ofJson? unit.toJson = some unit) ∧
      (∀ story : Story, (∀ unit ∈ story.units, unit.HasExactNumbers) →
        Story.ofJson? story.toJson = some { story with diagnostics := [] }) ∧
      ∀ unit other : StoryUnit, unit.HasExactNumbers → other.HasExactNumbers →
        unit.toJson = other.toJson → unit = other :=
  ⟨fun _ => StoryUnit.ofJson?_toJson, fun _ => Story.ofJson?_toJson,
    fun _ _ => StoryUnit.eq_of_toJson_eq⟩

namespace Sample

/-- A unit with something of everything. -/
def fullUnit : StoryUnit where
  group := 18446744073709551615
  branch := 1
  kind := .floatingText
  cast := [{
    position := 3, id := 20001, face := "03", highlighted := true, signal := false, model := "m"
    effects := [{ kind := .emotion, name := "sweat", async := true }] }]
  text := {
    runs := [{ content := "text", pause := some 5, effects := [.ruby "r", .bold, .fontSize 40] }]
    speaker := some { name := "Noa", nickname := none }
    choices := [{ branch := 2, text := "choice" }]
    floating := some { placement := some ⟨-7, 9, .smooth, 300⟩, middle := true, clear := false }
    title := some { title := "title", subtitle := some "subtitle", nextEpisode := true }
    place := some "place" }
  audio := some {
    music := some {
      url := "a.ogg", volume := 0.8, loopStart := 16777216, loopEnd := -0.1
      loopTransition := 3.4028235e38, loopOffset := 1e-45 }
    sound := none, voice := some "v.ogg" }
  background := some { url := "b.jpg", overlap := some 500 }
  live2d := some { name := "l", url := "l.skel", animation := "Idle_01" }
  transition := some {
    id := 4, out := "fade", outDuration := 10, outResource := none, into := "bgoverlap"
    intoDuration := 20, intoResource := some "mask" }
  effect := {
    background := some { id := 5, effect := "rain", scrollTime := 3, scrollFrom := -1 }
    screen := [.wait 7, .shakeBackground, .zoomInstant 1 (-2) 3, .zoomMove 1 2 3 4] }
  hidden := some .menu
  showsMenu := true
  video := some { picture := "p.mp4", sound := "p.ogg" }
  popup := some "popup.png"

/-- A story with the unit and an empty one. -/
def fullStory : Story where
  units := [fullUnit, {}]
  registry := (∅ : Live2dRegistry).insert "l" { name := "l", playQueue := ["Idle_01"] }

theorem readBack_fullUnit :
    fullUnit.HasExactNumbers ∧ StoryUnit.HasExactNumbers {} ∧
      StoryUnit.ofJson? fullUnit.toJson = some fullUnit ∧
      Story.ofJson? fullStory.toJson = some { fullStory with diagnostics := [] } ∧
      (fullUnit.toJson = StoryUnit.toJson {} → fullUnit = {}) := by
  have hfull : fullUnit.HasExactNumbers := by
    rintro _ ⟨⟩ _ ⟨⟩
    constructor <;> decide +kernel
  have hempty : StoryUnit.HasExactNumbers {} := by
    rintro _ ⟨⟩
  have hunits : ∀ unit ∈ fullStory.units, unit.HasExactNumbers := by
    simp [fullStory, hfull, hempty]
  obtain ⟨hunit, hstory, hdistinct⟩ := Story.readBack_of_exactNumbers
  exact ⟨hfull, hempty, hunit _ hfull, hstory _ hunits, hdistinct _ _ hfull hempty⟩

end Sample

end VisualNovel
