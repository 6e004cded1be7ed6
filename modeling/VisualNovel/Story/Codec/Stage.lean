/-
# What a unit has to see and hear, in JSON

The characters on stage, the audio, the backgrounds and the effects. The effects on the screen are
tagged by their kind among their own fields. An object tagged in this way is read as a whole before
it is understood, so every token in it has to be readable and its nesting is limited, counted from
the outermost value of the document.
-/

import VisualNovel.Json.Decode
import VisualNovel.Json.Encode
import VisualNovel.Story.Unit

namespace VisualNovel

namespace EffectKind

/-- Every kind of effect. -/
def all : List EffectKind := [.emotion, .action, .special]

/-- The name of the kind. -/
def name : EffectKind → String
  | emotion => "emotion"
  | action => "action"
  | special => "fx"

/-- The kind from JSON. -/
def ofJson? (json : Json) : Option EffectKind := json.oneNamed? all name

end EffectKind

namespace CharacterEffect

/-- The effect in JSON. -/
def toJson (effect : CharacterEffect) : Json :=
  .obj [("kind", .str effect.kind.name), ("name", .str effect.name),
    ("isAsync", .bool effect.async)]

/-- The effect from JSON. -/
def ofJson? (json : Json) : Option CharacterEffect := do
  let fields ← json.fullRecord? ["kind", "name", "isAsync"]
  let kind ← fields.required? "kind" EffectKind.ofJson?
  let name ← fields.required? "name" Json.text?
  let async ← fields.required? "isAsync" Json.bool?
  return { kind, name, async }

end CharacterEffect

namespace StagedCharacter

/-- The character in JSON. -/
def toJson (character : StagedCharacter) : Json :=
  .obj [("position", .ofNat character.position.toNat), ("characterId", .ofNat character.id.toNat),
    ("face", .str character.face), ("highlight", .bool character.highlighted),
    ("signal", .bool character.signal), ("spineUrl", .str character.model),
    ("effects", .ofList CharacterEffect.toJson character.effects)]

/-- The character from JSON. -/
def ofJson? (json : Json) : Option StagedCharacter := do
  let fields ← json.fullRecord?
    ["position", "characterId", "face", "highlight", "signal", "spineUrl", "effects"]
  let position ← fields.required? "position" Json.uint8?
  let id ← fields.required? "characterId" Json.uint64?
  let face ← fields.required? "face" Json.text?
  let highlighted ← fields.required? "highlight" Json.bool?
  let signal ← fields.required? "signal" Json.bool?
  let model ← fields.required? "spineUrl" Json.text?
  let effects ← fields.required? "effects" (Json.list? CharacterEffect.ofJson?)
  return { position, id, face, highlighted, signal, model, effects }

end StagedCharacter

namespace Music

/-- The volume and the times of the loop in JSON. -/
def loopToJson (music : Music) : Json :=
  .obj [("volume", .ofSingle music.volume), ("loopStart", .ofSingle music.loopStart),
    ("loopEnd", .ofSingle music.loopEnd), ("loopTransition", .ofSingle music.loopTransition),
    ("loopOffset", .ofSingle music.loopOffset)]

/-- The music at the given address with the volume and the times of the loop from JSON. -/
def ofLoopJson? (url : String) (json : Json) : Option Music := do
  let fields ← json.fullRecord? ["volume", "loopStart", "loopEnd", "loopTransition", "loopOffset"]
  let volume ← fields.required? "volume" Json.single?
  let loopStart ← fields.required? "loopStart" Json.single?
  let loopEnd ← fields.required? "loopEnd" Json.single?
  let loopTransition ← fields.required? "loopTransition" Json.single?
  let loopOffset ← fields.required? "loopOffset" Json.single?
  return { url, volume, loopStart, loopEnd, loopTransition, loopOffset }

/-- The music in JSON. -/
def toJson (music : Music) : Json := .obj [("url", .str music.url), ("args", music.loopToJson)]

/-- The music from JSON. -/
def ofJson? (json : Json) : Option Music := do
  let fields ← json.fullRecord? ["url", "args"]
  let url ← fields.required? "url" Json.text?
  fields.required? "args" (ofLoopJson? url)

end Music

namespace UnitAudio

/-- The audio in JSON. -/
def toJson (audio : UnitAudio) : Json :=
  .obj [("bgm", .ofOption Music.toJson audio.music), ("soundUrl", .ofOption .str audio.sound),
    ("voiceUrl", .ofOption .str audio.voice)]

/-- The audio from JSON. -/
def ofJson? (json : Json) : Option UnitAudio := do
  let fields ← json.fullRecord? ["bgm", "soundUrl", "voiceUrl"]
  let music ← fields.optional? "bgm" Music.ofJson?
  let sound ← fields.optional? "soundUrl" Json.text?
  let voice ← fields.optional? "voiceUrl" Json.text?
  return { music, sound, voice }

end UnitAudio

namespace Background

/-- The background in JSON. -/
def toJson (background : Background) : Json :=
  .obj [("url", .str background.url),
    ("overlap", .ofOption (fun overlap => .ofNat overlap.toNat) background.overlap)]

/-- The background from JSON. -/
def ofJson? (json : Json) : Option Background := do
  let fields ← json.fullRecord? ["url", "overlap"]
  let url ← fields.required? "url" Json.text?
  let overlap ← fields.optional? "overlap" Json.uint32?
  return { url, overlap }

end Background

namespace Live2d

/-- The animated background in JSON. -/
def toJson (live2d : Live2d) : Json :=
  .obj [("name", .str live2d.name), ("url", .str live2d.url),
    ("animationName", .str live2d.animation)]

/-- The animated background from JSON. -/
def ofJson? (json : Json) : Option Live2d := do
  let fields ← json.fullRecord? ["name", "url", "animationName"]
  let name ← fields.required? "name" Json.text?
  let url ← fields.required? "url" Json.text?
  let animation ← fields.required? "animationName" Json.text?
  return { name, url, animation }

end Live2d

namespace ScreenEffect

/-- The effect in JSON. -/
def toJson : ScreenEffect → Json
  | wait duration => .obj [("kind", .str "wait"), ("ms", .ofNat duration.toNat)]
  | shakeBackground => .obj [("kind", .str "bgShake")]
  | zoomInstant x y size =>
    .obj [("kind", .str "zoomInstant"), ("x", .int x.toInt), ("y", .int y.toInt),
      ("size", .ofNat size.toNat)]
  | zoomMove x y size duration =>
    .obj [("kind", .str "zoomMove"), ("x", .int x.toInt), ("y", .int y.toInt),
      ("size", .ofNat size.toNat), ("duration", .ofNat duration.toNat)]

/-- The effect of the given kind with the given fields. -/
def ofFields? (kind : String) (fields : Json.Fields) : Option ScreenEffect :=
  if kind = "wait" then
    (fields.required? "ms" Json.uint32?).map wait
  else if kind = "bgShake" then
    some shakeBackground
  else if kind = "zoomInstant" then do
    let x ← fields.required? "x" Json.int32?
    let y ← fields.required? "y" Json.int32?
    let size ← fields.required? "size" Json.uint32?
    return zoomInstant x y size
  else if kind = "zoomMove" then do
    let x ← fields.required? "x" Json.int32?
    let y ← fields.required? "y" Json.int32?
    let size ← fields.required? "size" Json.uint32?
    let duration ← fields.required? "duration" Json.uint32?
    return zoomMove x y size duration
  else none

/-- The names of the fields of an effect of the given kind. -/
def fieldNames (kind : String) : List String :=
  if kind = "wait" then ["ms"]
  else if kind = "zoomInstant" then ["x", "y", "size"]
  else if kind = "zoomMove" then ["x", "y", "size", "duration"]
  else []

/-- The effect from JSON, with as many arrays and objects around it as are given. In an array, the
kind stands in front of the values of its fields. -/
def ofJson? (around : Nat) (json : Json) : Option ScreenEffect := do
  guard (json.isWhole around)
  match json with
  | .arr (.str kind :: values) =>
    let fields ← (Json.arr values).fullRecord? (fieldNames kind)
    ofFields? kind fields
  | json =>
    let fields ← json.fields?
    let kind ← fields.required? "kind" Json.text?
    ofFields? kind fields

end ScreenEffect

namespace UnitEffect

/-- The effects in JSON. -/
def toJson (effect : UnitEffect) : Json :=
  .obj [("bgEffect", .ofOption BackgroundEffectRecord.toJson effect.background),
    ("others", .ofList ScreenEffect.toJson effect.screen)]

/-- The effects from JSON, with as many arrays and objects around them as are given. -/
def ofJson? (around : Nat) (json : Json) : Option UnitEffect := do
  let fields ← json.fullRecord? ["bgEffect", "others"]
  let background ← fields.optional? "bgEffect" BackgroundEffectRecord.ofJson?
  let screen ← fields.required? "others" (Json.list? (ScreenEffect.ofJson? (around + 2)))
  return { background, screen }

end UnitEffect

namespace Hidden

/-- Whatever can be hidden. -/
def allTargets : List Hidden := [.all, .menu]

/-- The name of what is hidden. -/
def name : Hidden → String
  | all => "all"
  | menu => "menu"

/-- What is hidden, from JSON. -/
def ofJson? (json : Json) : Option Hidden := json.oneNamed? allTargets name

end Hidden

namespace Video

/-- The video in JSON. -/
def toJson (video : Video) : Json :=
  .obj [("videoUrl", .str video.picture), ("soundUrl", .str video.sound)]

/-- The video from JSON. -/
def ofJson? (json : Json) : Option Video := do
  let fields ← json.fullRecord? ["videoUrl", "soundUrl"]
  let picture ← fields.required? "videoUrl" Json.text?
  let sound ← fields.required? "soundUrl" Json.text?
  return { picture, sound }

end Video

end VisualNovel
