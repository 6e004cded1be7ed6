/-
# Writing TOML text

A document of sections is written with a header for every section and a line for every entry, and
with a blank line between sections. Texts are in double quotes.
-/

import VisualNovel.Toml.Basic

namespace VisualNovel.Toml

namespace Printer

/-- A character as it stands between double quotes. -/
def escaped (c : Char) : List Char :=
  match c with
  | '"' => ['\\', '"']
  | '\\' => ['\\', '\\']
  | '\x08' => ['\\', 'b']
  | '\t' => ['\\', 't']
  | '\n' => ['\\', 'n']
  | '\x0c' => ['\\', 'f']
  | '\r' => ['\\', 'r']
  | c =>
    if c.toNat < 0x20 || c.toNat = 0x7F then
      ['\\', 'u', '0', '0', Nat.digitChar (c.toNat / 16), Nat.digitChar (c.toNat % 16)]
    else [c]

/-- A text in double quotes. -/
def quoted (text : String) : String :=
  "\"" ++ String.ofList (text.toList.flatMap escaped) ++ "\""

mutual

/-- A value on one line. -/
def value : Toml → String
  | .text found => quoted found
  | .integer found => toString found
  | .boolean true => "true"
  | .boolean false => "false"
  | .float literal => literal
  | .moment found => found.text
  | .array items => "[" ++ ", ".intercalate (values items) ++ "]"
  | .table [] => "\x7b\x7d"
  | .table entries => "\x7b " ++ ", ".intercalate (assignments entries) ++ " \x7d"

/-- Values on one line. -/
def values : List Toml → List String
  | [] => []
  | item :: items => value item :: values items

/-- Assignments on one line. -/
def assignments : List (String × Toml) → List String
  | [] => []
  | (key, found) :: rest => (key ++ " = " ++ value found) :: assignments rest

end

/-- A section: its header and a line for every entry. -/
def headed (name : String) (entries : List (String × Toml)) : String :=
  String.join (("[" ++ name ++ "]\n") :: (assignments entries).map (· ++ "\n"))

end Printer

/-- A document of sections. -/
def document (sections : List (String × List (String × Toml))) : String :=
  "\n".intercalate (sections.map fun (name, entries) => Printer.headed name entries)

end VisualNovel.Toml
