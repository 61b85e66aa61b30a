/-
# Properties of characters by name

A property is asked for by the name of a trait, of a general category or of a script, or by the name of
a property and that of one of its values.  A property may be known by its name only, and so may a value.
-/
import KeywordGrammar.Unicode.Age
import KeywordGrammar.Unicode.Script
import KeywordGrammar.Unicode.Segmentation
import KeywordGrammar.Unicode.Trait

namespace KeywordGrammar.Unicode

/-! ## 1. Names of properties -/

/-- A property by what counts of its names, and its values. -/
structure Property where
  names : List String
  values : List PropertyValue
  deriving DecidableEq, Repr

/-- The property with some names. -/
def Property.ofNames (names : List String) (values : List PropertyValue) : Property :=
  ⟨names.map (fun n => looseName n.toList), values⟩

/-- The properties whose values are known. -/
def valuedProperties : List Property := [
  .ofNames ["gc", "General_Category"] generalCategories,
  .ofNames ["sc", "Script"] scripts,
  .ofNames ["scx", "Script_Extensions"] scriptExtensions,
  .ofNames ["age", "Age"] ages,
  .ofNames ["GCB", "Grapheme_Cluster_Break"] graphemeBreaks,
  .ofNames ["WB", "Word_Break"] wordBreaks,
  .ofNames ["SB", "Sentence_Break"] sentenceBreaks]

/-- The properties that are known by their names only, traits apart. -/
def namedProperties : Property := .ofNames [
  "cjkAccountingNumeric", "kAccountingNumeric", "cjkOtherNumeric", "kOtherNumeric",
  "cjkPrimaryNumeric", "kPrimaryNumeric", "nv", "Numeric_Value", "bmg", "Bidi_Mirroring_Glyph",
  "bpb", "Bidi_Paired_Bracket", "cf", "Case_Folding", "cjkCompatibilityVariant",
  "kCompatibilityVariant", "dm", "Decomposition_Mapping", "EqUIdeo", "Equivalent_Unified_Ideograph",
  "FC_NFKC", "FC_NFKC_Closure", "lc", "Lowercase_Mapping", "NFKC_CF", "NFKC_Casefold", "NFKC_SCF",
  "NFKC_Simple_Casefold", "scf", "Simple_Case_Folding", "sfc", "slc", "Simple_Lowercase_Mapping",
  "stc", "Simple_Titlecase_Mapping", "suc", "Simple_Uppercase_Mapping", "tc", "Titlecase_Mapping",
  "uc", "Uppercase_Mapping", "cjkIICore", "kIICore", "cjkIRG_GSource", "kIRG_GSource",
  "cjkIRG_HSource", "kIRG_HSource", "cjkIRG_JSource", "kIRG_JSource", "cjkIRG_KPSource",
  "kIRG_KPSource", "cjkIRG_KSource", "kIRG_KSource", "cjkIRG_MSource", "kIRG_MSource",
  "cjkIRG_SSource", "kIRG_SSource", "cjkIRG_TSource", "kIRG_TSource", "cjkIRG_UKSource",
  "kIRG_UKSource", "cjkIRG_USource", "kIRG_USource", "cjkIRG_VSource", "kIRG_VSource",
  "cjkRSUnicode", "kRSUnicode", "Unicode_Radical_Stroke", "URS", "isc", "ISO_Comment", "JSN",
  "Jamo_Short_Name", "kEH_Cat", "kEH_Desc", "kEH_HG", "kEH_IFAO", "kEH_JSesh", "kEH_NoMirror",
  "kEH_NoRotate", "na", "Name", "na1", "Unicode_1_Name", "Name_Alias", "blk", "Block", "bc",
  "Bidi_Class", "bpt", "Bidi_Paired_Bracket_Type", "ccc", "Canonical_Combining_Class", "dt",
  "Decomposition_Type", "ea", "East_Asian_Width", "hst", "Hangul_Syllable_Type", "InCB",
  "Indic_Conjunct_Break", "InPC", "Indic_Positional_Category", "InSC", "Indic_Syllabic_Category",
  "jg", "Joining_Group", "jt", "Joining_Type", "lb", "Line_Break", "NFC_QC", "NFC_Quick_Check",
  "NFD_QC", "NFD_Quick_Check", "NFKC_QC", "NFKC_Quick_Check", "NFKD_QC", "NFKD_Quick_Check", "nt",
  "Numeric_Type", "vo", "Vertical_Orientation", "CE", "Composition_Exclusion", "Comp_Ex",
  "Full_Composition_Exclusion", "CWKCF", "Changes_When_NFKC_Casefolded", "XO_NFC",
  "Expands_On_NFC", "XO_NFD", "Expands_On_NFD", "XO_NFKC", "Expands_On_NFKC", "XO_NFKD",
  "Expands_On_NFKD"] []

/-! ## 2. Asking -/

/-- Why there is no set for what is asked for. -/
inductive PropertyFault where
  | unknownName
  | unknownValue
  deriving DecidableEq, Repr

/-- The characters with a value out of some. -/
def spansOf? (values : List PropertyValue) (name : String) : Option (Except PropertyFault Spans) :=
  (values.find? (fun v => v.names.contains name)).map (fun v =>
    match v.spans with
    | some s => .ok s
    | none => .error .unknownValue)

/-- The characters with a trait, a category or a script. -/
def traitSpans (name : List Char) : Except PropertyFault Spans :=
  let loose := looseName name
  ([traits, generalCategories, scripts].findSome? (spansOf? · loose)).getD (.error .unknownName)

/-- The characters that have a value of a property. -/
def valueSpans (name value : List Char) : Except PropertyFault Spans :=
  let loose := looseName name
  match valuedProperties.find? (fun p => p.names.contains loose) with
  | some p => (spansOf? p.values (looseName value)).getD (.error .unknownValue)
  | none =>
    if namedProperties.names.contains loose || traits.any (fun v => v.names.contains loose) then
      .error .unknownValue
    else .error .unknownName

end KeywordGrammar.Unicode
