/-
# What a command line mentions

A command line that makes sense mentions stories, languages and the wish for JSON one after the
other. A story is mentioned by a word that is no flag, a language by two words, of which the second
may be any word. So there is one way to read the words, and what they ask for can be told from the
mentions in any order, but that of several stories the last one counts, and of several languages.
-/

import VisualNovel.Command.Arguments

namespace VisualNovel

/-- One thing that a command line mentions. -/
inductive Mention
  | story (name : String) (plain : Arguments.isFlag name = false)
  | json
  | language (value : String)

namespace Mention

/-- The words of a mention. -/
def words : Mention → List String
  | story name _ => [name]
  | json => ["--json"]
  | language value => ["--lang", value]

def story? : Mention → Option String
  | story name _ => some name
  | _ => none

end Mention

namespace Arguments

variable {arguments given : Arguments} {words : List String} {mentions : List Mention}

end Arguments

end VisualNovel
