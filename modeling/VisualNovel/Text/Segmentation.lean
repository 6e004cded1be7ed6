/-
# Classes of characters for segmentation

A text is divided into what a reader takes for characters, into words and into sentences. For each
of these divisions every character is in at most one class, which follows from the traits of
characters up to a few exceptions.
-/

import VisualNovel.Text.Trait
import VisualNovel.Text.WritingSystem

namespace VisualNovel.Text

/-- The joiner of width zero. -/
def joiner : RangeTable := RangeTable.single 0x200D

/-- Format characters, those excepted that extend others or join them. -/
def formats : RangeTable := (inCategory "Cf").difference (graphemeExtenders.union joiner)

/-- Marks that extend a character, with those that have a width. -/
def allExtenders : RangeTable := graphemeExtenders.union (inCategory "Mc")

/-- Characters that are joined to the next one. -/
def prepended : RangeTable :=
  written ["600-605 6DD 70F 890-891 8E2 D4E 110BD 110CD 111C2-111C3 113D1 1193F 11941 11A3A",
    "11A84-11A89 11D46 11F02"]

/-- Characters between which a reader sees a bound. -/
def bounds : RangeTable :=
  (RangeTable.unions [inCategories ["Zl", "Zp", "Cc", "Cf"],
      unassigned.intersection defaultIgnorables]).difference
    (RangeTable.unions [graphemeExtenders, prepended, written ["A D 200D"]])

/-- Marks with a width that belong to the character before them. -/
def spacingMarks : RangeTable :=
  ((inCategory "Mc").union (written ["E33 EB3"])).difference
    (graphemeExtenders.union
      (written ["102B-102C 1038 1062-1064 1067-106D 1083 1087-108C 108F 109A-109C 1A61",
        "1A63-1A64 AA7B AA7D 11720-11721"]))

/-- The Hangul syllables. -/
def hangulSyllables : RangeTable := [(0xAC00, 0xD7A3)]

/-- The Hangul syllables that end in a vowel. -/
def openSyllables : RangeTable :=
  (List.range 399).map fun i => (0xAC00 + 28 * i, 0xAC00 + 28 * i)

/-- The classes of characters for the division of a text into what a reader takes for one. -/
def graphemeClasses : List CharClass := [
  ⟨["CR"], RangeTable.single 0xD⟩,
  ⟨["LF"], RangeTable.single 0xA⟩,
  ⟨["CN", "Control"], bounds⟩,
  ⟨["EX", "Extend"], graphemeExtenders.union (withTrait "EMod")⟩,
  ⟨["ZWJ"], joiner⟩,
  ⟨["RI", "Regional_Indicator"], withTrait "RI"⟩,
  ⟨["PP", "Prepend"], prepended⟩,
  ⟨["SM", "SpacingMark"], spacingMarks⟩,
  ⟨["L"], written ["1100-115F A960-A97C"]⟩,
  ⟨["V"], written ["1160-11A7 D7B0-D7C6 16D63 16D67-16D6A"]⟩,
  ⟨["T"], written ["11A8-11FF D7CB-D7FB"]⟩,
  ⟨["LV"], openSyllables⟩,
  ⟨["LVT"], hangulSyllables.difference openSyllables⟩]

/-- The letters of Hebrew. -/
def hebrewLetters : RangeTable :=
  (CharClass.membersOf writingSystems "Hebr").intersection (inCategory "Lo")

/-- Katakana and the signs that are used with them. -/
def katakana : RangeTable :=
  (CharClass.membersOf writingSystems "Kana").union (written ["3031-3035 309B-309C 30A0 30FC FF70"])

/-- Letters of scripts whose words are not divided by blanks. -/
def undividedLetters : RangeTable :=
  written ["E01-E30 E32-E33 E40-E46 E81-E82 E84 E86-E8A E8C-EA3 EA5 EA7-EB0 EB2-EB3 EBD EC0-EC4",
    "EC6 EDC-EDF 1000-102A 103F 1050-1055 105A-105D 1061 1065-1066 106E-1070 1075-1081 108E",
    "1780-17B3 17D7 17DC 1950-196D 1970-1974 1980-19AB 19B0-19C9 1A20-1A54 1AA7 A9E0-A9E4",
    "A9E6-A9EF A9FA-A9FE AA60-AA76 AA7A AA7E-AAAF AAB1 AAB5-AAB6 AAB9-AABD AAC0 AAC2 AADB-AADD",
    "11700-1171A 11740-11746"]

/-- Letters of scripts whose words are divided by blanks. -/
def dividedLetters : RangeTable :=
  (alphabeticChars.union
      (written ["2C2-2C5 2D2-2D7 2DE-2DF 2E5-2EB 2ED 2EF-2FF 55A-55C 55E 58A 5F3 A708-A716",
        "A720-A721 A789-A78A AB5B"])).difference
    (RangeTable.unions [withTrait "Ideo", katakana, hebrewLetters, undividedLetters, allExtenders,
      CharClass.membersOf writingSystems "Hira"])

/-- The classes of characters for the division of a text into words. -/
def wordClasses : List CharClass := [
  ⟨["CR"], RangeTable.single 0xD⟩,
  ⟨["LF"], RangeTable.single 0xA⟩,
  ⟨["NL", "Newline"], written ["B-C 85 2028-2029"]⟩,
  ⟨["Extend"], allExtenders.union (withTrait "EMod")⟩,
  ⟨["ZWJ"], joiner⟩,
  ⟨["FO", "Format"], formats.difference (RangeTable.single 0x200B)⟩,
  ⟨["RI", "Regional_Indicator"], withTrait "RI"⟩,
  ⟨["KA", "Katakana"], katakana⟩,
  ⟨["HL", "Hebrew_Letter"], hebrewLetters⟩,
  ⟨["LE", "ALetter"], dividedLetters⟩,
  ⟨["SQ", "Single_Quote"], RangeTable.single 0x27⟩,
  ⟨["DQ", "Double_Quote"], RangeTable.single 0x22⟩,
  ⟨["MB", "MidNumLet"], written ["2E 2018-2019 2024 FE52 FF07 FF0E"]⟩,
  ⟨["ML", "MidLetter"], written ["3A B7 387 55F 5F4 2027 FE13 FE55 FF1A"]⟩,
  ⟨["MN", "MidNum"],
    written ["2C 3B 37E 589 60C-60D 66C 7F8 2044 FE10 FE14 FE50 FE54 FF0C FF1B"]⟩,
  ⟨["NU", "Numeric"], (inCategory "Nd").union (RangeTable.single 0x66B)⟩,
  ⟨["EX", "ExtendNumLet"], written ["5F 202F 203F-2040 2054 FE33-FE34 FE4D-FE4F FF3F"]⟩,
  ⟨["WSegSpace"], written ["20 1680 2000-2006 2008-200A 205F 3000"]⟩]

/-- Georgian letters, which have case but not at the start of a sentence. -/
def georgianLetters : RangeTable := written ["10D0-10FA 10FD-10FF 1C90-1CBA 1CBD-1CBF"]

/-- Small letters within sentences. -/
def sentenceLower : RangeTable :=
  lowercaseLetters.difference (graphemeExtenders.union georgianLetters)

/-- Capital letters, with which sentences start. -/
def sentenceUpper : RangeTable :=
  (uppercaseLetters.union (inCategory "Lt")).difference georgianLetters

/-- Signs that may be behind the end of a sentence. -/
def closingSigns : RangeTable :=
  (inCategories ["Ps", "Pe", "Pi", "Pf"]).union
    (written ["22 27 275B-2760 2E00-2E01 2E06-2E08 2E0B 1F676-1F678"])

/-- The classes of characters for the division of a text into sentences. -/
def sentenceClasses : List CharClass := [
  ⟨["CR"], RangeTable.single 0xD⟩,
  ⟨["LF"], RangeTable.single 0xA⟩,
  ⟨["EX", "Extend"], allExtenders.union joiner⟩,
  ⟨["SE", "Sep"], written ["85 2028-2029"]⟩,
  ⟨["FO", "Format"], formats⟩,
  ⟨["SP", "Sp"], (withTrait "WSpace").difference (written ["A D 85 2028-2029"])⟩,
  ⟨["LO", "Lower"], sentenceLower⟩,
  ⟨["UP", "Upper"], sentenceUpper⟩,
  ⟨["LE", "OLetter"],
    (alphabeticChars.union (RangeTable.single 0x5F3)).difference
      (RangeTable.unions [sentenceLower, sentenceUpper, allExtenders])⟩,
  ⟨["NU", "Numeric"], (inCategory "Nd").union (written ["66B-66C"])⟩,
  ⟨["AT", "ATerm"], written ["2E 2024 FE52 FF0E"]⟩,
  ⟨["SC", "SContinue"],
    written ["2C-2D 3A 55D 60C-60D 7F8 1802 1808 2013-2014 3001 FE10-FE11 FE13 FE31-FE32 FE50-FE51",
      "FE55 FE58 FE63 FF0C-FF0D FF1A FF64"]⟩,
  ⟨["ST", "STerm"], (withTrait "STerm").difference (written ["2E 2024 FE52 FF0E"])⟩,
  ⟨["CL", "Close"], closingSigns⟩]

end VisualNovel.Text
