/-
# Sections of the configuration

A configuration has three sections: where the program finds and leaves its files, how stories are
read, and how far ahead resources are loaded. A section is a table in which every key may be missing
and then has its default, and in which unknown keys are passed over. It may also be written as an
array of its values in their order, of which the last ones may be missing. A section that has a
value of the wrong type has no meaning.
-/

import VisualNovel.Staging.Settings
import VisualNovel.Toml.Basic

namespace VisualNovel

/-- A type whose values are sections of the configuration. -/
class ConfigSection (α : Type) where
  /-- What a missing section means. -/
  fallback : α
  /-- The section that is written so. -/
  ofToml? : Toml → Option α
  /-- The section as it is written, if TOML can hold its values. -/
  toToml? : α → Option Toml

/-- Where the program finds and leaves its files, and how much it logs. -/
structure SystemConfig where
  /-- The directory of the reference tables. -/
  data : String := "data/"
  /-- The directory of the stories. -/
  stories : String := "story/"
  /-- The directory of the log. -/
  logs : String := "logs/"
  logLevel : String := "info"
  deriving DecidableEq, Repr

/-- How stories are read. -/
structure ReadingConfig where
  /-- The language by its code or an alias. -/
  language : String := "jp"
  /-- The name of the player. -/
  player : String := "先生"
  /-- The root of every address. -/
  root : String := ""
  deriving DecidableEq, Repr

/-- How far ahead resources are loaded. -/
structure PreloadConfig where
  /-- The number of units. -/
  ahead : UInt64 := 20
  deriving DecidableEq, Repr

namespace SectionTable

variable {α : Type}

/-- The value of one key of a section, which is given by its name and its place in the order. -/
def entry? (section? : Toml) (name : String) (place : Nat) (fallback : α)
    (decode : Toml → Option α) : Option α :=
  let found := match section? with
    | .table entries => entries.lookup name
    | .array items => items[place]?
    | _ => none
  match found with
  | some value => decode value
  | none => some fallback

/-- Whether a value can be a section with the given number of keys. -/
def fits (keys : Nat) : Toml → Bool
  | .table _ => true
  | .array items => items.length ≤ keys
  | _ => false

end SectionTable

open SectionTable

namespace SystemConfig

/-- The section in TOML. -/
def entries (config : SystemConfig) : List (String × Toml) :=
  [("data_path", .text config.data), ("story_path", .text config.stories),
    ("log_path", .text config.logs), ("log_level", .text config.logLevel)]

/-- The section from TOML. -/
def ofToml? (toml : Toml) : Option SystemConfig := do
  guard (fits 4 toml)
  let data ← entry? toml "data_path" 0 "data/" Toml.text?
  let stories ← entry? toml "story_path" 1 "story/" Toml.text?
  let logs ← entry? toml "log_path" 2 "logs/" Toml.text?
  let logLevel ← entry? toml "log_level" 3 "info" Toml.text?
  return { data, stories, logs, logLevel }

instance : ConfigSection SystemConfig where
  fallback := {}
  ofToml? := ofToml?
  toToml? config := some (.table config.entries)

/-- The section in JSON. -/
def toJson (config : SystemConfig) : Json :=
  .obj [("data_path", .str config.data), ("story_path", .str config.stories),
    ("log_path", .str config.logs), ("log_level", .str config.logLevel)]

/-- The names of the fields in their order. -/
def fieldNames : List String :=
  ["data_path", "story_path", "log_path", "log_level"]

/-- The section from JSON. -/
def ofJson? (json : Json) : Option SystemConfig := do
  let fields ← json.record? fieldNames
  let data ← fields.withDefault? "data_path" "data/" Json.text?
  let stories ← fields.withDefault? "story_path" "story/" Json.text?
  let logs ← fields.withDefault? "log_path" "logs/" Json.text?
  let logLevel ← fields.withDefault? "log_level" "info" Json.text?
  return { data, stories, logs, logLevel }

end SystemConfig

namespace ReadingConfig

/-- The section in TOML. -/
def entries (config : ReadingConfig) : List (String × Toml) :=
  [("language", .text config.language), ("user_name", .text config.player),
    ("resource_root", .text config.root)]

/-- The section from TOML. -/
def ofToml? (toml : Toml) : Option ReadingConfig := do
  guard (fits 3 toml)
  let language ← entry? toml "language" 0 "jp" Toml.text?
  let player ← entry? toml "user_name" 1 "先生" Toml.text?
  let root ← entry? toml "resource_root" 2 "" Toml.text?
  return { language, player, root }

instance : ConfigSection ReadingConfig where
  fallback := {}
  ofToml? := ofToml?
  toToml? config := some (.table config.entries)

/-- The section in JSON. -/
def toJson (config : ReadingConfig) : Json :=
  .obj [("language", .str config.language), ("user_name", .str config.player),
    ("resource_root", .str config.root)]

/-- The names of the fields in their order. -/
def fieldNames : List String :=
  ["language", "user_name", "resource_root"]

/-- The section from JSON. -/
def ofJson? (json : Json) : Option ReadingConfig := do
  let fields ← json.record? fieldNames
  let language ← fields.withDefault? "language" "jp" Json.text?
  let player ← fields.withDefault? "user_name" "先生" Json.text?
  let root ← fields.withDefault? "resource_root" "" Json.text?
  return { language, player, root }

/-- The settings that the section stands for. An unknown language counts as Japanese. -/
def settings (config : ReadingConfig) : PlayerSettings :=
  { language := (Language.named? config.language).getD .jp
    player := config.player
    root := config.root }

end ReadingConfig

namespace PreloadConfig

/-- The section in TOML. -/
def entries? (config : PreloadConfig) : Option (List (String × Toml)) :=
  (Toml.ofUInt64? config.ahead).map fun ahead => [("preload_ahead", ahead)]

/-- The section from TOML. -/
def ofToml? (toml : Toml) : Option PreloadConfig := do
  guard (fits 1 toml)
  let ahead ← entry? toml "preload_ahead" 0 20 Toml.uint64?
  return { ahead }

instance : ConfigSection PreloadConfig where
  fallback := {}
  ofToml? := ofToml?
  toToml? config := config.entries?.map .table

/-- The section in JSON. -/
def toJson (config : PreloadConfig) : Json := .obj [("preload_ahead", .ofNat config.ahead.toNat)]

/-- The names of the fields in their order. -/
def fieldNames : List String :=
  ["preload_ahead"]

/-- The section from JSON. -/
def ofJson? (json : Json) : Option PreloadConfig := do
  let fields ← json.record? fieldNames
  let ahead ← fields.withDefault? "preload_ahead" 20 Json.uint64?
  return { ahead }

end PreloadConfig

end VisualNovel
