/-
# What a unit has to read, in JSON

The effects of a run are tagged by their name beside their value; an effect without a value may be
given an empty one. The placement of floating text is an array of exactly three items, the first of
which is an array of two coordinates.
-/

import VisualNovel.Json.Decode
import VisualNovel.Json.Encode
import VisualNovel.Story.Unit

namespace VisualNovel

namespace RunEffect

/-- The name of the effect. -/
def name : RunEffect → String
  | ruby _ => "ruby"
  | color _ => "color"
  | bold => "bold"
  | italic => "italic"
  | fontSize _ => "fontSize"

/-- The effect in JSON. -/
def toJson (effect : RunEffect) : Json :=
  let value := match effect with
    | ruby text | color text => [("value", Json.str text)]
    | fontSize size => [("value", .ofNat size.toNat)]
    | bold | italic => []
  .obj (("name", .str effect.name) :: value)

/-- The effect if it is given no value, or an empty one. -/
def plain? (effect : RunEffect) : Option Json → Option RunEffect
  | none | some .null => some effect
  | some _ => none

/-- The effect of the given name and value. -/
def named? (name : String) (value : Option Json) : Option RunEffect :=
  if name = "ruby" then value.bind fun json => json.text?.map ruby
  else if name = "color" then value.bind fun json => json.text?.map color
  else if name = "fontSize" then value.bind fun json => json.uint32?.map fontSize
  else if name = "bold" then plain? bold value
  else if name = "italic" then plain? italic value
  else none

/-- The effect from JSON. -/
def ofJson? (json : Json) : Option RunEffect := do
  let fields ← json.fullRecord? ["name", "value"]
  let name ← fields.required? "name" Json.name?
  let value ← fields.lookup? ["value"]
  named? name value

end RunEffect

namespace Run

/-- The run in JSON. -/
def toJson (run : Run) : Json :=
  .obj [("content", .str run.content),
    ("waitTime", .ofOption (fun pause => .ofNat pause.toNat) run.pause),
    ("effects", .ofList RunEffect.toJson run.effects)]

/-- The run from JSON. -/
def ofJson? (json : Json) : Option Run := do
  let fields ← json.fullRecord? ["content", "waitTime", "effects"]
  let content ← fields.required? "content" Json.text?
  let pause ← fields.optional? "waitTime" Json.uint32?
  let effects ← fields.required? "effects" (Json.list? RunEffect.ofJson?)
  return { content, pause, effects }

end Run

namespace Speaker

/-- The speaker in JSON. -/
def toJson (speaker : Speaker) : Json :=
  .obj [("name", .str speaker.name), ("nickname", .ofOption .str speaker.nickname)]

/-- The speaker from JSON. -/
def ofJson? (json : Json) : Option Speaker := do
  let fields ← json.fullRecord? ["name", "nickname"]
  let name ← fields.required? "name" Json.text?
  let nickname ← fields.optional? "nickname" Json.text?
  return { name, nickname }

end Speaker

namespace Choice

/-- The choice in JSON. -/
def toJson (choice : Choice) : Json :=
  .obj [("selectionGroup", .ofNat choice.branch.toNat), ("text", .str choice.text)]

/-- The choice from JSON. -/
def ofJson? (json : Json) : Option Choice := do
  let fields ← json.fullRecord? ["selectionGroup", "text"]
  let branch ← fields.required? "selectionGroup" Json.uint32?
  let text ← fields.required? "text" Json.text?
  return { branch, text }

end Choice

namespace FloatingMode

/-- Every mode. -/
def all : List FloatingMode := [.serial, .instant, .smooth]

/-- The name of the mode, which is also its keyword in scripts. -/
def name : FloatingMode → String
  | serial => "serial"
  | instant => "instant"
  | smooth => "smooth"

/-- The mode with the given keyword in lower case. -/
def named? (keyword : List Char) : Option FloatingMode :=
  all.find? fun mode => mode.name.toList == keyword

/-- The mode from JSON. -/
def ofJson? (json : Json) : Option FloatingMode := json.oneNamed? all name

end FloatingMode

namespace FloatingPlacement

/-- The placement in JSON. -/
def toJson (placement : FloatingPlacement) : Json :=
  .arr [.arr [.int placement.x.toInt, .int placement.y.toInt], .str placement.mode.name,
    .ofNat placement.duration.toNat]

/-- The placement from JSON. -/
def ofJson? : Json → Option FloatingPlacement
  | .arr [.arr [x, y], mode, duration] => do
    let x ← x.int32?
    let y ← y.int32?
    let mode ← FloatingMode.ofJson? mode
    let duration ← duration.uint32?
    return { x, y, mode, duration }
  | _ => none

end FloatingPlacement

namespace FloatingText

/-- The floating text in JSON. -/
def toJson (text : FloatingText) : Json :=
  .obj [("stArgs", .ofOption FloatingPlacement.toJson text.placement),
    ("middle", .bool text.middle), ("clear", .bool text.clear)]

/-- The floating text from JSON. -/
def ofJson? (json : Json) : Option FloatingText := do
  let fields ← json.fullRecord? ["stArgs", "middle", "clear"]
  let placement ← fields.optional? "stArgs" FloatingPlacement.ofJson?
  let middle ← fields.required? "middle" Json.bool?
  let clear ← fields.required? "clear" Json.bool?
  return { placement, middle, clear }

end FloatingText

namespace TitleCard

/-- The title card in JSON. -/
def toJson (card : TitleCard) : Json :=
  .obj [("title", .str card.title), ("subtitle", .ofOption .str card.subtitle),
    ("nextEpisode", .bool card.nextEpisode)]

/-- The title card from JSON. -/
def ofJson? (json : Json) : Option TitleCard := do
  let fields ← json.fullRecord? ["title", "subtitle", "nextEpisode"]
  let title ← fields.required? "title" Json.text?
  let subtitle ← fields.optional? "subtitle" Json.text?
  let nextEpisode ← fields.required? "nextEpisode" Json.bool?
  return { title, subtitle, nextEpisode }

end TitleCard

namespace UnitText

/-- The runs and the speaker in JSON. -/
def spokenToJson (text : UnitText) : Json :=
  .obj [("text", .ofList Run.toJson text.runs), ("speaker", .ofOption Speaker.toJson text.speaker)]

/-- The runs and the speaker from JSON. -/
def spokenOfJson? (json : Json) : Option (List Run × Option Speaker) := do
  let fields ← json.fullRecord? ["text", "speaker"]
  let runs ← fields.required? "text" (Json.list? Run.ofJson?)
  let speaker ← fields.optional? "speaker" Speaker.ofJson?
  return (runs, speaker)

/-- The text in JSON. -/
def toJson (text : UnitText) : Json :=
  .obj [("showText", text.spokenToJson), ("options", .ofList Choice.toJson text.choices),
    ("st", .ofOption FloatingText.toJson text.floating),
    ("titleInfo", .ofOption TitleCard.toJson text.title), ("word", .ofOption .str text.place)]

/-- The text from JSON. -/
def ofJson? (json : Json) : Option UnitText := do
  let fields ← json.fullRecord? ["showText", "options", "st", "titleInfo", "word"]
  let (runs, speaker) ← fields.required? "showText" spokenOfJson?
  let choices ← fields.required? "options" (Json.list? Choice.ofJson?)
  let floating ← fields.optional? "st" FloatingText.ofJson?
  let title ← fields.optional? "titleInfo" TitleCard.ofJson?
  let place ← fields.optional? "word" Json.text?
  return { runs, speaker, choices, floating, title, place }

end UnitText

end VisualNovel
