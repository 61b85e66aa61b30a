/-
# The rule list

An editor tries the rules in their order, so the order decides what a piece of text is taken for.
The rules come in four phases: first those for the structure of a file, then one rule a category in
precedence order, then bare numbers, and last any other word, which only gets what nothing before it
took.
-/
import KeywordGrammar.Rule

namespace KeywordGrammar

/-! ## 1. The fixed rules -/

/-- The rule for a base directive, which tags its two groups: the directive and what it names. -/
def baseRule : Rule where
  name := none
  pattern := "^(\\s?\"?#base\"?)\\s+(\"?.*\"?)$"
  captures := some (Dictionary.ofList [("1", "keyword.control"), ("2", "string")])

/-- A comment: from two slashes to the end of the text. -/
def commentRule : Rule := .named "comment" "//.*$"

/-- A constant in brackets. -/
def bracketRule : Rule := .named "constant.character" "\\[.*\\]"

/-- A string between quotes. -/
def stringRule : Rule := .named "string" "\".*\""

/-- A word of digits. -/
def numericRule : Rule := .named "constant.numeric" "\\b(\\d+)\\b"

/-- Any word. -/
def fallbackRule : Rule := .named "variable" "\\b(\\w+)\\b"

/-! ## 2. Phases -/

/-- A part of the rule list. -/
inductive Phase where
  /-- Directives, comments, bracketed constants and strings. -/
  | structural
  /-- One rule for each category that owns a term, in precedence order. -/
  | dynamic
  /-- Bare numbers. -/
  | numeric
  /-- Any other word. -/
  | fallback
  deriving DecidableEq, Repr

/-- The name of a phase. -/
def Phase.name : Phase → String
  | structural => "Structural"
  | dynamic => "Dynamic"
  | numeric => "Numeric"
  | fallback => "Fallback"

/-- The order of the phases. -/
def assemblyOrder : List Phase := [.structural, .dynamic, .numeric, .fallback]

/-- The rules of the categories that own a term. -/
def dynamicRules : List Category → Except RuleFault (List Rule)
  | [] => .ok []
  | c :: rest =>
    match c.rule? with
    | .error e => .error e
    | .ok none => dynamicRules rest
    | .ok (some rule) =>
      match dynamicRules rest with
      | .error e => .error e
      | .ok rules => .ok (rule :: rules)

/-- The rules of a phase. -/
def Phase.rules (categories : List Category) : Phase → Except RuleFault (List Rule)
  | structural => .ok [baseRule, commentRule, bracketRule, stringRule]
  | dynamic => dynamicRules categories
  | numeric => .ok [numericRule]
  | fallback => .ok [fallbackRule]

/-- The rules of some phases in their order. -/
def rulesOf (categories : List Category) : List Phase → Except RuleFault (List Rule)
  | [] => .ok []
  | phase :: rest =>
    match phase.rules categories with
    | .error e => .error e
    | .ok first =>
      match rulesOf categories rest with
      | .error e => .error e
      | .ok others => .ok (first ++ others)

/-- The whole rule list for categories in precedence order. -/
def assemble (categories : List Category) : Except RuleFault (List Rule) :=
  rulesOf categories assemblyOrder

/-- The rules of the categories stand between the structural rules and the two last ones. -/
theorem assemble_eq (categories : List Category) :
    assemble categories = (dynamicRules categories).map (fun dynamic =>
      [baseRule, commentRule, bracketRule, stringRule] ++ dynamic ++ [numericRule, fallbackRule]) := by
  cases h : dynamicRules categories <;> simp [assemble, assemblyOrder, rulesOf, Phase.rules, h,
    Except.map]

end KeywordGrammar
