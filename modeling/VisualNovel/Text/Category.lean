/-
# General categories

Every character has one general category. Several categories form a larger one, and there are names
for all characters, for those that are assigned and for the ASCII ones.
-/

import VisualNovel.Text.Category.Table

namespace VisualNovel.Text

/-- The characters of a category by its short name. -/
def inCategory (name : String) : RangeTable := CharClass.membersOf generalCategories name

/-- The characters of any of the categories with the short names. -/
def inCategories (names : List String) : RangeTable :=
  CharClass.membersOfAll generalCategories names

/-- The code points that are no characters on their own. -/
def surrogates : RangeTable := [(0xD800, 0xDFFF)]

/-- The characters that no category has been given to. -/
def unassigned : RangeTable :=
  RangeTable.complement (RangeTable.unions (surrogates :: generalCategories.map (·.members.get)))

/-- The categories, those that are made of others behind them. -/
def categories : List CharClass := generalCategories ++ [
  ⟨["Cn", "Unassigned"], unassigned⟩,
  ⟨["L", "Letter"], inCategories ["Lu", "Ll", "Lt", "Lm", "Lo"]⟩,
  ⟨["LC", "Cased_Letter"], inCategories ["Lu", "Ll", "Lt"]⟩,
  ⟨["M", "Mark", "Combining_Mark"], inCategories ["Mn", "Mc", "Me"]⟩,
  ⟨["N", "Number"], inCategories ["Nd", "Nl", "No"]⟩,
  ⟨["P", "Punctuation", "Punct"], inCategories ["Pc", "Pd", "Ps", "Pe", "Pi", "Pf", "Po"]⟩,
  ⟨["S", "Symbol"], inCategories ["Sm", "Sc", "Sk", "So"]⟩,
  ⟨["Z", "Separator"], inCategories ["Zs", "Zl", "Zp"]⟩,
  ⟨["C", "Other"],
    RangeTable.unions [inCategories ["Cc", "Cf", "Co"], surrogates, unassigned]⟩,
  ⟨["Any"], [(0, lastPoint)]⟩,
  ⟨["Assigned"], RangeTable.complement unassigned⟩,
  ⟨["ASCII"], [(0, 0x7F)]⟩]

end VisualNovel.Text
