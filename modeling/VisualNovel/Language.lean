/-
# Languages

A story carries its text in five languages. Its scripts and the names they use are Korean, which is
the language of its authors and not one of the five.
-/

import VisualNovel.Json.Encode
import VisualNovel.Json.Decode

namespace VisualNovel

/-- A language that a story can be played in. -/
inductive Language
  | jp | cn | tw | en | th
  deriving DecidableEq, Repr, Inhabited

namespace Language

/-- Every language. -/
def all : List Language := [.jp, .cn, .tw, .en, .th]

/-- The code of the language. -/
def code : Language → String
  | jp => "jp"
  | cn => "cn"
  | tw => "tw"
  | en => "en"
  | th => "th"

/-- The language with exactly the given code. -/
def ofCode? (text : String) : Option Language :=
  all.find? (·.code == text)

/-- The language that a player asks for by its code or a common alias, in any letter case. -/
def named? (text : String) : Option Language :=
  let lower := text.map Char.toLower
  if lower = "ja" then some .jp
  else if lower = "zh" then some .cn
  else ofCode? lower

/-- The language in JSON. -/
def toJson (language : Language) : Json := .str language.code

/-- The language from JSON, by exactly its code. -/
def ofJson? (json : Json) : Option Language := json.oneNamed? all code

end Language

/-- Something that there is once for each language. -/
structure Localized (α : Type) where
  jp : α
  cn : α
  tw : α
  en : α
  th : α
  deriving DecidableEq, Repr

namespace Localized

variable {α β : Type}

/-- The one for the given language. -/
def get (localized : Localized α) : Language → α
  | .jp => localized.jp
  | .cn => localized.cn
  | .tw => localized.tw
  | .en => localized.en
  | .th => localized.th

/-- The same for every language. -/
def all (value : α) : Localized α := ⟨value, value, value, value, value⟩

end Localized

end VisualNovel
