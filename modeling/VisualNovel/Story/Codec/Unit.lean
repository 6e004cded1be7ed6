/-
# Units in JSON

A unit has every field written, absent values as null. Read back, a field that is never absent has
to be there, one that may be absent may also be missing, and fields of other names are passed over.
-/

import VisualNovel.Story.Codec.Stage
import VisualNovel.Story.Codec.Text

namespace VisualNovel

namespace UnitKind

/-- Every kind of unit. -/
def all : List UnitKind :=
  [.title, .place, .text, .choice, .floatingText, .effectOnly, .continued]

/-- The name of the kind. -/
def name : UnitKind → String
  | title => "title"
  | place => "place"
  | text => "text"
  | choice => "option"
  | floatingText => "st"
  | effectOnly => "effectOnly"
  | continued => "continue"

/-- The kind from JSON. -/
def ofJson? (json : Json) : Option UnitKind := json.oneNamed? all name

end UnitKind

namespace StoryUnit

/-- The unit in JSON. -/
def toJson (unit : StoryUnit) : Json :=
  .obj [("groupId", .ofNat unit.group.toNat), ("selectionGroup", .ofNat unit.branch.toNat),
    ("type", .str unit.kind.name), ("characters", .ofList StagedCharacter.toJson unit.cast),
    ("textAbout", unit.text.toJson), ("audio", .ofOption UnitAudio.toJson unit.audio),
    ("bg", .ofOption Background.toJson unit.background),
    ("l2d", .ofOption Live2d.toJson unit.live2d),
    ("transition", .ofOption TransitionRecord.toJson unit.transition),
    ("effect", unit.effect.toJson),
    ("hide", .ofOption (fun hidden => .str hidden.name) unit.hidden),
    ("show", if unit.showsMenu then .str "menu" else .null),
    ("video", .ofOption Video.toJson unit.video), ("popupUrl", .ofOption .str unit.popup)]

/-- That the menu is shown, from JSON. -/
def menuOfJson? (json : Json) : Option Unit :=
  if json.name? = some "menu" then some () else none

/-- The unit from JSON, with as many arrays and objects around it as are given. -/
def ofJsonWithin? (around : Nat) (json : Json) : Option StoryUnit := do
  let fields ← json.fullRecord?
    ["groupId", "selectionGroup", "type", "characters", "textAbout", "audio", "bg", "l2d",
      "transition", "effect", "hide", "show", "video", "popupUrl"]
  let group ← fields.required? "groupId" Json.uint64?
  let branch ← fields.required? "selectionGroup" Json.uint32?
  let kind ← fields.required? "type" UnitKind.ofJson?
  let cast ← fields.required? "characters" (Json.list? StagedCharacter.ofJson?)
  let text ← fields.required? "textAbout" UnitText.ofJson?
  let audio ← fields.optional? "audio" UnitAudio.ofJson?
  let background ← fields.optional? "bg" Background.ofJson?
  let live2d ← fields.optional? "l2d" Live2d.ofJson?
  let transition ← fields.optional? "transition" TransitionRecord.ofJson?
  let effect ← fields.required? "effect" (UnitEffect.ofJson? (around + 1))
  let hidden ← fields.optional? "hide" Hidden.ofJson?
  let shown ← fields.optional? "show" menuOfJson?
  let video ← fields.optional? "video" Video.ofJson?
  let popup ← fields.optional? "popupUrl" Json.text?
  return {
    group, branch, kind, cast, text, audio, background, live2d, transition, effect, hidden,
    showsMenu := shown.isSome, video, popup }

/-- The unit from JSON that holds nothing else. -/
def ofJson? (json : Json) : Option StoryUnit := ofJsonWithin? 0 json

end StoryUnit

namespace Live2dRegistry

/-- The registry in JSON, by ascending name. -/
def toJson (registry : Live2dRegistry) : Json :=
  .obj (registry.toList.map fun (name, config) => (name, config.toJson))

/-- The registry from JSON; of several configurations of one name the last counts. -/
def ofJson? (json : Json) : Option Live2dRegistry := do
  let fields ← json.fields?
  fields.foldlM (fun registry (name, value) =>
    (Live2dConfig.ofJson? value).map fun config => registry.insert name config) ∅

end Live2dRegistry

end VisualNovel
