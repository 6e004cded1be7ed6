/-
# Moments written as tables

One key is reserved for moments. A table in which it is the first of all keys, in the order of the
characters, stands for the moment that is the text of that key, whatever the other keys stand for.
There has to be such a moment. Behind another key the reserved one has no meaning of its own.
-/

import VisualNovel.Toml.Basic

namespace VisualNovel.Toml

/-- The key that is reserved for moments. -/
def momentKey : String := "$__toml_private_datetime"

/-- What stands for the moment in a table that is one. -/
def written? (entries : List (String × Toml)) : Option Toml :=
  if entries.all fun (key, _) => momentKey ≤ key then entries.lookup momentKey else none

mutual

/-- The value with moments in place of the tables that stand for them, if they all do. -/
def withMoments? : Toml → Option Toml
  | .array items => (itemsWithMoments? items).map .array
  | .table entries =>
    match written? entries with
    | none => (entriesWithMoments? entries).map .table
    | some (.text written) => (Moment.read? written.toList).map .moment
    | some _ => none
  | value => some value

/-- The items with moments in place of such tables. -/
def itemsWithMoments? : List Toml → Option (List Toml)
  | [] => some []
  | item :: rest => do return (← withMoments? item) :: (← itemsWithMoments? rest)

/-- The entries with moments in place of such tables. -/
def entriesWithMoments? : List (String × Toml) → Option (List (String × Toml))
  | [] => some []
  | (key, value) :: rest => do
    return (key, ← withMoments? value) :: (← entriesWithMoments? rest)

end

example : (withMoments? (.table [("zone", .integer 1), (momentKey, .text "07:32")])).bind text? =
      some "07:32:00" ∧
    (withMoments? (.table [("!", .integer 1), (momentKey, .text "07:32")])).bind text? = none ∧
    (withMoments? (.array [.table [(momentKey, .text "noon")]])).isNone := by decide +kernel

end VisualNovel.Toml
