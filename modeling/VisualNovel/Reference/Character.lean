/-
# Characters

A character has a name and sometimes a nickname in each language, beside the Korean name by which
scripts call it. A name that is missing in the player's language is shown in Japanese, and failing
that in Korean; a nickname has no Korean form to fall back to.
-/

import VisualNovel.Language

namespace VisualNovel

/-- A character of the reference tables. -/
structure CharacterRecord where
  id : UInt64 := 0
  productionStep : String := ""
  /-- The Korean name. -/
  nameKr : String := ""
  nicknameKr : Option String := none
  names : Localized (Option String) := .all none
  nicknames : Localized (Option String) := .all none
  /-- How the character is rendered. -/
  shape : String := ""
  /-- The path of the model that is shown. -/
  prefab : String := ""
  portrait : String := ""
  deriving DecidableEq, Repr

namespace CharacterRecord

/-- The text, unless it is missing or empty. -/
def nonempty (text : Option String) : Option String := text.filter fun text => !text.isEmpty

/-- The name that is shown in the language. -/
def name (record : CharacterRecord) (language : Language) : String :=
  ((nonempty (record.names.get language)).or (nonempty record.names.jp)).getD record.nameKr

/-- The nickname that is shown in the language, if there is one. -/
def nickname (record : CharacterRecord) (language : Language) : Option String :=
  (nonempty (record.nicknames.get language)).or (nonempty record.nicknames.jp)

/-- Whether the character is shown as a hologram. -/
def isSignal (record : CharacterRecord) : Bool := record.shape == "Signal"

/-- The record in JSON. -/
def toJson (record : CharacterRecord) : Json :=
  .obj [("CharacterName", .ofNat record.id.toNat), ("ProductionStep", .str record.productionStep),
    ("NameKR", .str record.nameKr), ("NicknameKR", .ofOption .str record.nicknameKr),
    ("NameJP", .ofOption .str record.names.jp), ("NicknameJP", .ofOption .str record.nicknames.jp),
    ("NameCN", .ofOption .str record.names.cn), ("NicknameCN", .ofOption .str record.nicknames.cn),
    ("NameTW", .ofOption .str record.names.tw), ("NicknameTW", .ofOption .str record.nicknames.tw),
    ("NameEN", .ofOption .str record.names.en), ("NicknameEN", .ofOption .str record.nicknames.en),
    ("NameTH", .ofOption .str record.names.th), ("NicknameTH", .ofOption .str record.nicknames.th),
    ("Shape", .str record.shape), ("SpinePrefabName", .str record.prefab),
    ("SmallPortrait", .str record.portrait)]

/-- One text per language, in the fields called by the word and the capital code of the language. -/
def localized? (fields : Json.Fields) (word : String) : Option (Localized (Option String)) := do
  let jp ← fields.optional? (word ++ "JP") Json.text?
  let cn ← fields.optional? (word ++ "CN") Json.text?
  let tw ← fields.optional? (word ++ "TW") Json.text?
  let en ← fields.optional? (word ++ "EN") Json.text?
  let th ← fields.optional? (word ++ "TH") Json.text?
  return { jp, cn, tw, en, th }

/-- The names of the fields in their order. -/
def fieldNames : List String :=
  ["CharacterName", "ProductionStep", "NameKR", "NicknameKR", "NameJP", "NicknameJP", "NameCN",
   "NicknameCN", "NameTW", "NicknameTW", "NameEN", "NicknameEN", "NameTH", "NicknameTH", "Shape",
   "SpinePrefabName", "SmallPortrait"]

/-- The record from JSON. -/
def ofJson? (json : Json) : Option CharacterRecord := do
  let fields ← json.record? fieldNames
  let id ← fields.withDefault? "CharacterName" 0 Json.uint64?
  let productionStep ← fields.withDefault? "ProductionStep" "" Json.text?
  let nameKr ← fields.withDefault? "NameKR" "" Json.text?
  let nicknameKr ← fields.optional? "NicknameKR" Json.text?
  let names ← localized? fields "Name"
  let nicknames ← localized? fields "Nickname"
  let shape ← fields.withDefault? "Shape" "" Json.text?
  let prefab ← fields.withDefault? "SpinePrefabName" "" Json.text?
  let portrait ← fields.withDefault? "SmallPortrait" "" Json.text?
  return {
    id, productionStep, nameKr, nicknameKr, names, nicknames, shape, prefab, portrait }

end CharacterRecord

end VisualNovel
