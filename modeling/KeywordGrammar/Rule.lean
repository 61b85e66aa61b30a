/-
# Rules

A rule tags what its pattern matches with a name, or tags its groups with one name each.  A pattern
that no rule can use is refused when it is read: it may be malformed, or too large once compiled.
-/
import KeywordGrammar.Category
import KeywordGrammar.Pattern.Alternation
import KeywordGrammar.Pattern.Reading
import KeywordGrammar.Pattern.Size

namespace KeywordGrammar

/-! ## 1. Patterns that cannot be used -/

/-- Why a rule cannot use a pattern. -/
inductive PatternFault where
  | malformed (pattern : String) (fault : Pattern.SyntaxFault)
  | tooLarge
  deriving DecidableEq, Repr

/-- Bytes that an automaton for a pattern may take. -/
def compiledSizeLimit : Nat := 10485760

/-- The wording of a fault. -/
def PatternFault.message : PatternFault → String
  | malformed pattern fault => fault.report pattern
  | tooLarge => "Compiled regex exceeds size limit of " ++ toString compiledSizeLimit ++ " bytes."

/-! ## 2. The type -/

/-- A rule: a name for the whole match, a pattern, and names for its groups. -/
structure Rule where
  name : Option String
  pattern : String
  captures : Option (Dictionary String)
  deriving DecidableEq

/-- A fault in the pattern of the rule with this label. -/
structure RuleFault where
  label : String
  fault : PatternFault
  deriving DecidableEq, Repr

namespace Rule

/-- A rule that names its whole match. -/
def named (name pattern : String) : Rule := ⟨some name, pattern, none⟩

/-- What a message calls the rule: its name, or its pattern if it has none. -/
def label (r : Rule) : String := r.name.getD r.pattern

/-- The rule's pattern, if it can be used. -/
def compile (r : Rule) : Except RuleFault Pattern :=
  match Pattern.read r.pattern with
  | .error e => .error ⟨r.label, .malformed r.pattern e⟩
  | .ok p =>
    if p.shape.fits compiledSizeLimit then .ok p.meaning else .error ⟨r.label, .tooLarge⟩

end Rule

/-! ## 3. The rule of a category -/

/-- The rule of a category, if it owns a term. -/
def Category.rule? (c : Category) : Except RuleFault (Option Rule) :=
  if c.isEmpty then .ok none
  else
    let rule := Rule.named c.name (alternation c.terms.toList)
    match rule.compile with
    | .ok _ => .ok (some rule)
    | .error e => .error e

end KeywordGrammar
