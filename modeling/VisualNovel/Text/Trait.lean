/-
# Traits of characters

A character has a trait or has it not. Some traits follow from its category and from other traits.
-/

import VisualNovel.Text.Category
import VisualNovel.Text.Trait.Table

namespace VisualNovel.Text

/-- The characters with a listed trait, given by its short name. -/
def withTrait (name : String) : RangeTable := CharClass.membersOf listedTraits name

/-- Small letters of all kinds. -/
def lowercaseLetters : RangeTable := (inCategory "Ll").union (withTrait "OLower")

/-- Capital letters of all kinds. -/
def uppercaseLetters : RangeTable := (inCategory "Lu").union (withTrait "OUpper")

/-- Characters with letter case. -/
def casedLetters : RangeTable :=
  RangeTable.unions [lowercaseLetters, uppercaseLetters, inCategory "Lt"]

/-- Letters, numerals that are letters, and what belongs to letters. -/
def alphabeticChars : RangeTable :=
  RangeTable.unions [casedLetters, inCategories ["Lm", "Lo", "Nl"], withTrait "OAlpha"]

/-- Characters that stand between cased letters without ending a word. -/
def caseIgnorables : RangeTable :=
  (inCategories ["Mn", "Me", "Cf", "Lm", "Sk"]).union
    (written ["27 2E 3A B7 387 55F 5F4 2018-2019 2024 2027 FE13 FE52 FE55 FF07 FF0E FF1A"])

/-- Characters that extend the one before them. -/
def graphemeExtenders : RangeTable := (inCategories ["Mn", "Me"]).union (withTrait "OGr_Ext")

/-- Characters that others extend. -/
def graphemeBases : RangeTable :=
  let others := inCategories ["Cc", "Cf", "Co", "Zl", "Zp"]
  RangeTable.complement (RangeTable.unions [others, surrogates, unassigned, graphemeExtenders])

/-- Characters that are not shown where they are not understood. -/
def defaultIgnorables : RangeTable :=
  (RangeTable.unions [withTrait "ODI", inCategory "Cf", withTrait "VS"]).difference
    (RangeTable.unions [withTrait "WSpace", withTrait "PCM", written ["FFF9-FFFB 13430-13440"]])

/-- The characters of a table that mean nothing in patterns. -/
def unreserved (table : RangeTable) : RangeTable :=
  table.difference ((withTrait "Pat_Syn").union (withTrait "Pat_WS"))

/-- Characters that identifiers start with. -/
def identifierStarts : RangeTable :=
  unreserved ((inCategories ["Lu", "Ll", "Lt", "Lm", "Lo", "Nl"]).union (withTrait "OIDS"))

/-- Characters that identifiers go on with. -/
def identifierParts : RangeTable :=
  let others := inCategories ["Mn", "Mc", "Nd", "Pc"]
  unreserved (RangeTable.unions [identifierStarts, others, withTrait "OIDC"])

/-- Characters whose normal forms are no identifiers. -/
def unstableParts : RangeTable :=
  written ["37A 309B-309C FC5E-FC63 FDFA-FDFB FE70-FE7E/2"]

/-- Characters whose normal forms no identifier starts with. -/
def unstableStarts : RangeTable := unstableParts.union (written ["E33 EB3 FF9E-FF9F"])

/-- The traits, with their short and long names. -/
def traits : List CharClass := listedTraits ++ [
  ⟨["Lower", "Lowercase"], lowercaseLetters⟩,
  ⟨["Upper", "Uppercase"], uppercaseLetters⟩,
  ⟨["Cased"], casedLetters⟩,
  ⟨["Alpha", "Alphabetic"], alphabeticChars⟩,
  ⟨["CI", "Case_Ignorable"], caseIgnorables⟩,
  ⟨["Math"], (inCategory "Sm").union (withTrait "OMath")⟩,
  ⟨["Gr_Ext", "Grapheme_Extend"], graphemeExtenders⟩,
  ⟨["Gr_Base", "Grapheme_Base"], graphemeBases⟩,
  ⟨["DI", "Default_Ignorable_Code_Point"], defaultIgnorables⟩,
  ⟨["IDS", "ID_Start"], identifierStarts⟩,
  ⟨["IDC", "ID_Continue"], identifierParts⟩,
  ⟨["XIDS", "XID_Start"], identifierStarts.difference unstableStarts⟩,
  ⟨["XIDC", "XID_Continue"], identifierParts.difference unstableParts⟩]

end VisualNovel.Text
