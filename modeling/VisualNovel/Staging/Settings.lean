/-
# Settings of the player

What a story depends on beside its rows and the reference tables: the language it is read in, the
name by which it calls the player, and the root below which its resources are found.
-/

import VisualNovel.Language

namespace VisualNovel

/-- The settings with which a story is staged. -/
structure PlayerSettings where
  language : Language := .jp
  /-- The name that stands for the player in texts. -/
  player : String := "先生"
  /-- The root of every address. -/
  root : String := ""
  deriving DecidableEq, Repr

namespace PlayerSettings

/-- The settings in JSON. -/
def toJson (settings : PlayerSettings) : Json :=
  .obj [("language", settings.language.toJson), ("user_name", .str settings.player),
    ("resource_root", .str settings.root)]

/-- The names of the fields in their order. -/
def fieldNames : List String :=
  ["language", "user_name", "resource_root"]

/-- The settings from JSON. -/
def ofJson? (json : Json) : Option PlayerSettings := do
  let fields ← json.record? fieldNames
  let language ← fields.withDefault? "language" .jp Language.ofJson?
  let player ← fields.withDefault? "user_name" "先生" Json.text?
  let root ← fields.withDefault? "resource_root" "" Json.text?
  return { language, player, root }

end PlayerSettings

end VisualNovel
