/-
# Arguments of the command line

The command takes the name of a story, and of several names the last one. Flags start with two
dashes and stand anywhere: one asks for the story in JSON, one gives a language. Whatever follows
the latter is its value.
-/

namespace VisualNovel

/-- What the command is asked for. -/
structure Arguments where
  story : Option String := none
  json : Bool := false
  language : Option String := none
  deriving DecidableEq, Repr

/-- Why arguments make no sense. -/
inductive ArgumentError
  | missingLanguage
  | unknownFlag (flag : String)
  deriving DecidableEq, Repr

/-- The error in words. -/
def ArgumentError.message : ArgumentError → String
  | missingLanguage => "--lang needs a value"
  | unknownFlag flag => "Unknown flag '" ++ flag ++ "'"

namespace Arguments

/-- Whether an argument is a flag. -/
def isFlag (argument : String) : Bool := "--".toList.isPrefixOf argument.toList

/-- What further arguments add to those read before. -/
def parseFrom (arguments : Arguments) : List String → Except ArgumentError Arguments
  | [] => .ok arguments
  | "--json" :: rest => parseFrom { arguments with json := true } rest
  | ["--lang"] => .error .missingLanguage
  | "--lang" :: language :: rest => parseFrom { arguments with language := some language } rest
  | other :: rest =>
    if isFlag other then .error (.unknownFlag other)
    else parseFrom { arguments with story := some other } rest

/-- What the arguments ask for. -/
def parse (arguments : List String) : Except ArgumentError Arguments := parseFrom {} arguments

example : (parse ["a", "--lang", "--json", "b"]).toOption =
    some { story := some "b", language := some "--json" } := by decide

end Arguments

end VisualNovel
