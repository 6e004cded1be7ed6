/-
# Character properties by name

A property is known by any of its names, or by the name of a category or a script alone. A name that
is known may still be that of nothing a pattern can ask for.
-/

import VisualNovel.Pattern.Basic
import VisualNovel.Pattern.Fault
import VisualNovel.Pattern.Property.Names
import VisualNovel.Text.Age
import VisualNovel.Text.Segmentation

namespace VisualNovel.Pattern

open Text

/-- The values of a property, for the properties that have values to ask for. -/
def valuesOf? (name : String) : Option (List CharClass) :=
  [(["General_Category", "gc"], categories), (["Script", "sc"], writingSystems),
    (["Script_Extensions", "scx"], usedWritingSystems), (["Age"], ages),
    (["Grapheme_Cluster_Break", "GCB"], graphemeClasses), (["Word_Break", "WB"], wordClasses),
    (["Sentence_Break", "SB"], sentenceClasses)].findSome? fun (names, values) =>
      if isOneOf names name then some values else none

/-- The class of characters that a name stands for, or what is wrong with the name. -/
def PropertyName.charClass : PropertyName → Except Fault CharClass
  | plain name =>
    match CharClass.find? (traits ++ categories ++ writingSystems) name with
    | some found => .ok found
    | none => .error (if isOneOf emptyClasses name then .propertyValueUnknown else .propertyUnknown)
  | valued name value =>
    match valuesOf? name with
    | some values =>
      match CharClass.find? values value with
      | some found => .ok found
      | none => .error .propertyValueUnknown
    | none =>
      if (CharClass.find? traits name).isSome || isOneOf otherProperties name then
        .error .propertyValueUnknown
      else .error .propertyUnknown

/-- What is wrong with a name, if it is not that of a property. -/
def PropertyName.fault? (name : PropertyName) : Option Fault :=
  match name.charClass with
  | .ok _ => none
  | .error fault => some fault

/-- The characters with a property. There are none if the name is not that of a property. -/
def PropertyName.members (name : PropertyName) : RangeTable :=
  match name.charClass with
  | .ok found => found.members.get
  | .error _ => []

end VisualNovel.Pattern
