/-
# Rows

A story is written as a table of rows, and each row becomes one step of its playback. A row names
its resources by the numbers of the reference tables, carries a script, and may have a text in each
language. Fields that are missing from an exported row have their zero or empty value.
-/

import VisualNovel.Language
import VisualNovel.Text.Blank

namespace VisualNovel

/-- One row of a story as it is exported. -/
structure Row where
  /-- The group that the row belongs to. -/
  group : UInt64 := 0
  /-- The branch of a choice that the row is played on; zero for every branch. -/
  branch : UInt32 := 0
  /-- The music that starts, by number; zero for none. -/
  music : UInt64 := 0
  sound : String := ""
  /-- The transition, by number; zero for none. -/
  transition : UInt64 := 0
  /-- The background, by number; zero for none. -/
  background : UInt64 := 0
  /-- The effect on the background, by number; zero for none. -/
  backgroundEffect : UInt64 := 0
  popup : String := ""
  script : String := ""
  texts : Localized (Option String) := .all none
  voice : String := ""
  deriving DecidableEq, Repr

namespace Row

/-- The text in the given language, unless it is missing or blank. -/
def text (row : Row) (language : Language) : Option String :=
  (row.texts.get language).filter fun text => !Text.isBlankText text.toList

/-- The row in JSON. -/
def toJson (row : Row) : Json :=
  .obj [("GroupId", .ofNat row.group.toNat), ("SelectionGroup", .ofNat row.branch.toNat),
    ("BGMId", .ofNat row.music.toNat), ("Sound", .str row.sound),
    ("Transition", .ofNat row.transition.toNat), ("BGName", .ofNat row.background.toNat),
    ("BGEffect", .ofNat row.backgroundEffect.toNat), ("PopupFileName", .str row.popup),
    ("ScriptKr", .str row.script), ("TextJp", .ofOption .str row.texts.jp),
    ("TextCn", .ofOption .str row.texts.cn), ("TextTw", .ofOption .str row.texts.tw),
    ("TextEn", .ofOption .str row.texts.en), ("TextTh", .ofOption .str row.texts.th),
    ("VoiceJp", .str row.voice)]

/-- The names of the fields in their order. -/
def fieldNames : List String :=
  ["GroupId", "SelectionGroup", "BGMId", "Sound", "Transition", "BGName", "BGEffect",
   "PopupFileName", "ScriptKr", "TextJp", "TextCn", "TextTw", "TextEn", "TextTh", "VoiceJp"]

/-- The row from JSON. -/
def ofJson? (json : Json) : Option Row := do
  let fields ← json.record? fieldNames
  let group ← fields.withDefault? "GroupId" 0 Json.uint64?
  let branch ← fields.withDefault? "SelectionGroup" 0 Json.uint32?
  let music ← fields.withDefault? "BGMId" 0 Json.uint64?
  let sound ← fields.withDefault? "Sound" "" Json.text?
  let transition ← fields.withDefault? "Transition" 0 Json.uint64?
  let background ← fields.withDefault? "BGName" 0 Json.uint64?
  let backgroundEffect ← fields.withDefault? "BGEffect" 0 Json.uint64?
  let popup ← fields.withDefault? "PopupFileName" "" Json.text?
  let script ← fields.withDefault? "ScriptKr" "" Json.text?
  let jp ← fields.optional? "TextJp" Json.text?
  let cn ← fields.optional? "TextCn" Json.text?
  let tw ← fields.optional? "TextTw" Json.text?
  let en ← fields.optional? "TextEn" Json.text?
  let th ← fields.optional? "TextTh" Json.text?
  let voice ← fields.withDefault? "VoiceJp" "" Json.text?
  return {
    group, branch, music, sound, transition, background, backgroundEffect, popup, script,
    texts := { jp, cn, tw, en, th }, voice }

end Row

end VisualNovel
