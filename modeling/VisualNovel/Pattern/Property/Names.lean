/-
# Names of properties that cannot be asked for

The names and short names that the Unicode character database gives to properties of which a pattern
cannot ask for any value, and to categories and scripts that have no characters.
-/

namespace VisualNovel.Pattern

/-- Properties with values of which none is asked for. -/
def otherProperties : List String :=
  ["Bidi_Class", "bc", "Bidi_Mirroring_Glyph", "bmg", "Bidi_Paired_Bracket", "bpb",
    "Bidi_Paired_Bracket_Type", "bpt", "Block", "blk", "Canonical_Combining_Class", "ccc",
    "Case_Folding", "cf", "Changes_When_NFKC_Casefolded", "CWKCF", "Composition_Exclusion", "CE",
    "Decomposition_Mapping", "dm", "Decomposition_Type", "dt", "East_Asian_Width", "ea",
    "Equivalent_Unified_Ideograph", "EqUIdeo", "Expands_On_NFC", "XO_NFC", "Expands_On_NFD",
    "XO_NFD", "Expands_On_NFKC", "XO_NFKC", "Expands_On_NFKD", "XO_NFKD", "FC_NFKC_Closure",
    "FC_NFKC", "Full_Composition_Exclusion", "Comp_Ex", "Hangul_Syllable_Type", "hst",
    "Indic_Conjunct_Break", "InCB", "Indic_Positional_Category", "InPC", "Indic_Syllabic_Category",
    "InSC", "ISO_Comment", "isc", "Jamo_Short_Name", "JSN", "Joining_Group", "jg", "Joining_Type",
    "jt", "kAccountingNumeric", "cjkAccountingNumeric", "kCompatibilityVariant",
    "cjkCompatibilityVariant", "kEH_Cat", "kEH_Desc", "kEH_HG", "kEH_IFAO", "kEH_JSesh",
    "kEH_NoMirror", "kEH_NoRotate", "kIICore", "cjkIICore", "kIRG_GSource", "cjkIRG_GSource",
    "kIRG_HSource", "cjkIRG_HSource", "kIRG_JSource", "cjkIRG_JSource", "kIRG_KPSource",
    "cjkIRG_KPSource", "kIRG_KSource", "cjkIRG_KSource", "kIRG_MSource", "cjkIRG_MSource",
    "kIRG_SSource", "cjkIRG_SSource", "kIRG_TSource", "cjkIRG_TSource", "kIRG_UKSource",
    "cjkIRG_UKSource", "kIRG_USource", "cjkIRG_USource", "kIRG_VSource", "cjkIRG_VSource",
    "kOtherNumeric", "cjkOtherNumeric", "kPrimaryNumeric", "cjkPrimaryNumeric", "kRSUnicode",
    "cjkRSUnicode", "Unicode_Radical_Stroke", "URS", "Line_Break", "lb", "Lowercase_Mapping", "lc",
    "Name", "na", "Name_Alias", "NFC_Quick_Check", "NFC_QC", "NFD_Quick_Check", "NFD_QC",
    "NFKC_Casefold", "NFKC_CF", "NFKC_Quick_Check", "NFKC_QC", "NFKC_Simple_Casefold", "NFKC_SCF",
    "NFKD_Quick_Check", "NFKD_QC", "Numeric_Type", "nt", "Numeric_Value", "nv",
    "Simple_Case_Folding", "scf", "sfc", "Simple_Lowercase_Mapping", "slc",
    "Simple_Titlecase_Mapping", "stc", "Simple_Uppercase_Mapping", "suc", "Titlecase_Mapping",
    "tc", "Unicode_1_Name", "na1", "Uppercase_Mapping", "uc", "Vertical_Orientation", "vo"]

/-- Categories and scripts without characters of their own. -/
def emptyClasses : List String :=
  ["Surrogate", "Cs", "Unknown", "Zzzz", "Katakana_Or_Hiragana", "Hrkt"]

end VisualNovel.Pattern
