/-
# The filter of the log

How much is logged is written as a list of items between commas, with an optional pattern behind a
slash. An item is a level, a part of the program, or a part and its level with an equals sign
between them. An item of another form is left out, and so are a text that is no pattern and a filter
with several slashes, and a warning tells so. Log lines are not modelled, and of the filter only its
warnings are. What counts as a pattern is for others to say.
-/

import VisualNovel.Text.Blank
import VisualNovel.Text.Lowercase

namespace VisualNovel

/-- A check of patterns: what it reports of a text that it takes for none. -/
abbrev PatternCheck := List Char → Option String

namespace LogFilter

open Text

/-- The names of the levels. -/
def levels : List String := ["off", "error", "warn", "info", "debug", "trace"]

/-- Whether the word names a level, in any letter case. -/
def isLevel (word : List Char) : Bool :=
  levels.any fun level => level.toList == lowercaseAscii word

/-- What is wrong with an item, if it has another form than items have: the word that is no level,
or the item with too many parts. -/
def fault? (item : List Char) : Option (List Char) :=
  match item.splitOn '=' with
  | [_] => none
  | [_, level] => if isBlankText level || isLevel (trim level) then none else some (trim level)
  | _ => some item

/-- The warning about a part of the filter. -/
def warning (part : List Char) (reason : String) : String :=
  "warning: invalid logging spec '" ++ String.ofList part ++ "'" ++ reason ++ ", ignoring it\n"

/-- The warnings about the items of a filter. -/
def itemWarnings (items : List Char) : List String :=
  ((items.splitOn ',').filterMap fun item => fault? (trim item)).map (warning · "")

/-- The warnings about the pattern of a filter. -/
def patternWarnings (check : PatternCheck) (pattern : List Char) : List String :=
  match check pattern with
  | some report => ["warning: invalid regex filter - " ++ report ++ ", ignoring it\n"]
  | none => []

/-- The warnings about a filter. -/
def warnings (check : PatternCheck) (filter : List Char) : List String :=
  match filter.splitOn '/' with
  | [items] => itemWarnings items
  | [items, pattern] => itemWarnings items ++ patternWarnings check pattern
  | _ => [warning filter " (too many '/'s)"]

example : itemWarnings "Info, net=debug, net=, net=loud , a=b=c".toList =
    [warning "loud".toList "", warning "a=b=c".toList ""] := by decide +kernel

end LogFilter

end VisualNovel
