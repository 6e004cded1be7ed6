/-
# The configuration store

The store holds the sections of the configuration by name. It is filled once, and a document that is
not well formed fills it with nothing. A section is decoded when it is asked for; where the store is
not filled, or the section is missing or has no meaning, the default is the answer.
-/

import VisualNovel.Config.Section
import VisualNovel.Toml.Parser
import Std.Data.ExtTreeMap

namespace VisualNovel

/-- What can go wrong with the store. -/
inductive ConfigError
  | alreadyInitialized
  | notInitialized
  /-- TOML cannot hold a value of the section. -/
  | unrepresentable
  deriving DecidableEq, Repr

/-- The error in words. -/
def ConfigError.message : ConfigError → String
  | alreadyInitialized => "Config already initialized"
  | notInitialized => "Config not initialized"
  | unrepresentable => "A number of the section is too large"

/-- The sections by name, once the store is filled. -/
structure ConfigStore where
  sections? : Option (Std.ExtTreeMap String Toml) := none

namespace ConfigStore

/-- Whether the store is filled. -/
def isFilled (store : ConfigStore) : Bool := store.sections?.isSome

/-- The sections of a document, none if it is not well formed. -/
def sectionsOf (text : String) : Std.ExtTreeMap String Toml :=
  ((Toml.parse? text).getD []).foldl (fun sections (name, value) => sections.insert name value) ∅

/-- The store filled from a document. -/
def fill (store : ConfigStore) (text : String) : Except ConfigError ConfigStore :=
  if store.isFilled then .error .alreadyInitialized
  else .ok { sections? := some (sectionsOf text) }

variable {α : Type} [ConfigSection α]

/-- The section with the given name. -/
def get (store : ConfigStore) (α : Type) [ConfigSection α] (name : String) : α :=
  ((store.sections?.bind fun sections => sections[name]?).bind ConfigSection.ofToml?).getD
    ConfigSection.fallback

/-- The store with one section replaced. -/
def set (store : ConfigStore) (name : String) (value : α) : Except ConfigError ConfigStore :=
  match store.sections? with
  | none => .error .notInitialized
  | some sections =>
    match ConfigSection.toToml? value with
    | none => .error .unrepresentable
    | some toml => .ok { sections? := some (sections.insert name toml) }

end ConfigStore

end VisualNovel
