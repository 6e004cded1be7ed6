/-
# Scenery and music

The records of backgrounds, of the music, of transitions between units, of effects on the
background, and of the playback of animated backgrounds.
-/

import VisualNovel.Json.Decode
import VisualNovel.Json.Encode

namespace VisualNovel

/-- How a background is made. -/
inductive BackgroundKind
  | image
  /-- An animated background. -/
  | spine
  /-- Any kind that is not known; it is shown like an image. -/
  | unknown
  deriving DecidableEq, Repr

namespace BackgroundKind

/-- The name of the kind. -/
def name : BackgroundKind → String
  | image => "Image"
  | spine => "Spine"
  | unknown => "Unknown"

/-- The kind with the given name. -/
def named (text : String) : BackgroundKind :=
  if text = "Image" then .image else if text = "Spine" then .spine else .unknown

/-- The kind from JSON. -/
def ofJson? (json : Json) : Option BackgroundKind := json.name?.map named

end BackgroundKind

/-- A background of the reference tables. -/
structure BackgroundRecord where
  id : UInt64 := 0
  productionStep : String := ""
  file : String := ""
  kind : BackgroundKind := .image
  repeats : Bool := false
  animation : String := ""
  scale : Float32 := 0
  x : Int32 := 0
  y : Int32 := 0
  deriving DecidableEq

namespace BackgroundRecord

/-- The record in JSON. -/
def toJson (record : BackgroundRecord) : Json :=
  .obj [("Name", .ofNat record.id.toNat), ("ProductionStep", .str record.productionStep),
    ("BGFileName", .str record.file), ("BGType", .str record.kind.name),
    ("AnimationRepeat", .bool record.repeats), ("AnimationName", .str record.animation),
    ("SpineScale", .ofSingle record.scale), ("SpineLocalPosX", .int record.x.toInt),
    ("SpineLocalPosY", .int record.y.toInt)]

/-- The names of the fields in their order. -/
def fieldNames : List String :=
  ["Name", "ProductionStep", "BGFileName", "BGType", "AnimationRepeat", "AnimationName",
   "SpineScale", "SpineLocalPosX", "SpineLocalPosY"]

/-- The record from JSON. -/
def ofJson? (json : Json) : Option BackgroundRecord := do
  let fields ← json.record? fieldNames
  let id ← fields.withDefault? "Name" 0 Json.uint64?
  let productionStep ← fields.withDefault? "ProductionStep" "" Json.text?
  let file ← fields.withDefault? "BGFileName" "" Json.text?
  let kind ← fields.withDefault? "BGType" .image BackgroundKind.ofJson?
  let repeats ← fields.withDefault? "AnimationRepeat" false Json.bool?
  let animation ← fields.withDefault? "AnimationName" "" Json.text?
  let scale ← fields.withDefault? "SpineScale" 0 Json.single?
  let x ← fields.withDefault? "SpineLocalPosX" 0 Json.int32?
  let y ← fields.withDefault? "SpineLocalPosY" 0 Json.int32?
  return { id, productionStep, file, kind, repeats, animation, scale, x, y }

end BackgroundRecord

/-- A piece of music of the reference tables. -/
structure MusicRecord where
  id : UInt64 := 0
  path : String := ""
  volume : Float32 := 0
  loopStart : Float32 := 0
  loopEnd : Float32 := 0
  loopTransition : Float32 := 0
  loopOffset : Float32 := 0
  deriving DecidableEq

namespace MusicRecord

/-- The record in JSON. The spelling of the transition's field is that of the exported tables. -/
def toJson (record : MusicRecord) : Json :=
  .obj [("Id", .ofNat record.id.toNat), ("Path", .str record.path),
    ("Volume", .ofSingle record.volume), ("LoopStartTime", .ofSingle record.loopStart),
    ("LoopEndTime", .ofSingle record.loopEnd),
    ("LoopTranstionTime", .ofSingle record.loopTransition),
    ("LoopOffsetTime", .ofSingle record.loopOffset)]

/-- The names of the fields in their order. -/
def fieldNames : List String :=
  ["Id", "Path", "Volume", "LoopStartTime", "LoopEndTime", "LoopTranstionTime", "LoopOffsetTime"]

/-- The record from JSON. -/
def ofJson? (json : Json) : Option MusicRecord := do
  let fields ← json.record? fieldNames
  let id ← fields.withDefault? "Id" 0 Json.uint64?
  let path ← fields.withDefault? "Path" "" Json.text?
  let volume ← fields.withDefault? "Volume" 0 Json.single?
  let loopStart ← fields.withDefault? "LoopStartTime" 0 Json.single?
  let loopEnd ← fields.withDefault? "LoopEndTime" 0 Json.single?
  let loopTransition ← fields.withDefault? "LoopTranstionTime" 0 Json.single?
  let loopOffset ← fields.withDefault? "LoopOffsetTime" 0 Json.single?
  return { id, path, volume, loopStart, loopEnd, loopTransition, loopOffset }

end MusicRecord

/-- A transition of the reference tables. -/
structure TransitionRecord where
  id : UInt64 := 0
  out : String := ""
  outDuration : UInt32 := 0
  outResource : Option String := none
  into : String := ""
  intoDuration : UInt32 := 0
  intoResource : Option String := none
  deriving DecidableEq, Repr

namespace TransitionRecord

/-- The name of the transition in which one background fades over another. -/
def overlapName : String := "bgoverlap"

/-- How long the backgrounds fade over one another, if that is what the transition does. -/
def overlap (record : TransitionRecord) : Option UInt32 :=
  if record.into = overlapName then some record.intoDuration
  else if record.out = overlapName then some record.outDuration
  else none

/-- The record in JSON. -/
def toJson (record : TransitionRecord) : Json :=
  .obj [("Name", .ofNat record.id.toNat), ("TransitionOut", .str record.out),
    ("TransitionOutDuration", .ofNat record.outDuration.toNat),
    ("TransitionOutResource", .ofOption .str record.outResource),
    ("TransitionIn", .str record.into),
    ("TransitionInDuration", .ofNat record.intoDuration.toNat),
    ("TransitionInResource", .ofOption .str record.intoResource)]

/-- The names of the fields in their order. -/
def fieldNames : List String :=
  ["Name", "TransitionOut", "TransitionOutDuration", "TransitionOutResource", "TransitionIn",
   "TransitionInDuration", "TransitionInResource"]

/-- The record from JSON. -/
def ofJson? (json : Json) : Option TransitionRecord := do
  let fields ← json.record? fieldNames
  let id ← fields.withDefault? "Name" 0 Json.uint64?
  let out ← fields.withDefault? "TransitionOut" "" Json.text?
  let outDuration ← fields.withDefault? "TransitionOutDuration" 0 Json.uint32?
  let outResource ← fields.optional? "TransitionOutResource" Json.text?
  let into ← fields.withDefault? "TransitionIn" "" Json.text?
  let intoDuration ← fields.withDefault? "TransitionInDuration" 0 Json.uint32?
  let intoResource ← fields.optional? "TransitionInResource" Json.text?
  return { id, out, outDuration, outResource, into, intoDuration, intoResource }

end TransitionRecord

/-- An effect on the background of the reference tables. -/
structure BackgroundEffectRecord where
  id : UInt64 := 0
  effect : String := ""
  scroll : String := ""
  scrollTime : UInt32 := 0
  scrollFrom : Int32 := 0
  scrollTo : Int32 := 0
  deriving DecidableEq

namespace BackgroundEffectRecord

/-- The record in JSON. -/
def toJson (record : BackgroundEffectRecord) : Json :=
  .obj [("Name", .ofNat record.id.toNat), ("Effect", .str record.effect),
    ("Scroll", .str record.scroll), ("ScrollTime", .ofNat record.scrollTime.toNat),
    ("ScrollFrom", .int record.scrollFrom.toInt), ("ScrollTo", .int record.scrollTo.toInt)]

/-- The names of the fields in their order. -/
def fieldNames : List String :=
  ["Name", "Effect", "Scroll", "ScrollTime", "ScrollFrom", "ScrollTo"]

/-- The record from JSON. -/
def ofJson? (json : Json) : Option BackgroundEffectRecord := do
  let fields ← json.record? fieldNames
  let id ← fields.withDefault? "Name" 0 Json.uint64?
  let effect ← fields.withDefault? "Effect" "" Json.text?
  let scroll ← fields.withDefault? "Scroll" "" Json.text?
  let scrollTime ← fields.withDefault? "ScrollTime" 0 Json.uint32?
  let scrollFrom ← fields.withDefault? "ScrollFrom" 0 Json.int32?
  let scrollTo ← fields.withDefault? "ScrollTo" 0 Json.int32?
  return { id, effect, scroll, scrollTime, scrollFrom, scrollTo }

end BackgroundEffectRecord

/-- How an animated background is played. -/
structure Live2dConfig where
  name : String := ""
  /-- The animations that are played one after the other. -/
  playQueue : List String := []
  /-- Further animated models that go with the background. -/
  others : List String := []
  deriving DecidableEq, Repr

namespace Live2dConfig

/-- The configuration in JSON. -/
def toJson (config : Live2dConfig) : Json :=
  .obj [("name", .str config.name), ("play_queue", .ofList .str config.playQueue),
    ("other_spine", .ofList .str config.others)]

/-- The names of the fields in their order. -/
def fieldNames : List String :=
  ["name", "play_queue", "other_spine"]

/-- The configuration from JSON. -/
def ofJson? (json : Json) : Option Live2dConfig := do
  let fields ← json.record? fieldNames
  let name ← fields.withDefault? "name" "" Json.text?
  let playQueue ← fields.withDefault? "play_queue" [] (Json.list? Json.text?)
  let others ← fields.withDefault? "other_spine" [] (Json.list? Json.text?)
  return { name, playQueue, others }

end Live2dConfig

end VisualNovel
