/-
# Generating a grammar

A run loads the sources in their order, gathers the candidates, gives every term to one category and
puts the rule list together.  The first failure ends it.  Beside the grammar it yields a summary of
what became of each category.
-/
import KeywordGrammar.Grammar
import KeywordGrammar.Rule.Assembly
import KeywordGrammar.Source.Load
import KeywordGrammar.Traced

namespace KeywordGrammar

/-! ## 1. Events of the steps -/

/-- What is recorded about a source that is being merged. -/
def Source.mergeEvents : Source → List Event
  | .list _ _ => []
  | .mapping keyCategory memberCategory entries =>
    let found := MappingTerms.ofEntries entries
    [.aggregatedMapping keyCategory found.keys.size memberCategory found.members.size]

/-- What is recorded about a category that has been resolved. -/
def Category.resolveEvent (c : Category) : Event :=
  if c.isEmpty && decide (0 < c.candidates) then .fullyShadowed c.name c.candidates
  else .resolvedCategory c.name c.terms.size c.shadowed

/-- What is recorded while the rules of categories are put together: the empty ones, up to the first
whose rule is refused. -/
def omissionEvents (categories : List Category) : List Event :=
  ((categories.takeWhile (fun c => c.rule?.isOk)).filter Category.isEmpty).map
    (fun c => .omittedCategory c.name)

/-! ## 2. Candidates of a configuration -/

/-- Loads sources in their order. -/
def loadSources (files : FileReader) (dir : DataDirectory) : List SourceSpec → Traced (List Source)
  | [] => pure []
  | spec :: rest => do
    let source ← Traced.ofExcept (Source.load files dir spec)
    Traced.record (.loadedSource (dir.join spec.file) source.size)
    let more ← (⟨source.mergeEvents, .ok ()⟩ : Traced Unit) >>= fun _ => loadSources files dir rest
    pure (source :: more)

/-- What sources and extra terms contribute, in this order. -/
def Config.contributions (config : Config) (sources : List Source) : List Contribution :=
  sources.map .source ++ config.extraTerms.map (fun e => .extra e.category e.terms)

/-- The candidates that a configuration gathers. -/
def collectCandidates (files : FileReader) (config : Config) : Traced Candidates := do
  let sources ← loadSources files config.dataDirectory config.sources
  pure (Candidates.collect (config.contributions sources))

/-! ## 3. Rules -/

/-- Resolves candidates and puts the rule list together. -/
def buildRules (cands : Candidates) (order : Precedence) : Traced (List Category × List Rule) := do
  let categories ← Traced.ofExcept ((resolve cands order).mapError .precedence)
  let rules ← (⟨categories.map Category.resolveEvent ++ omissionEvents categories,
    (assemble categories).mapError .pattern⟩ : Traced (List Rule))
  pure (categories, rules)

/-! ## 4. Grammars -/

/-- What became of a category. -/
structure CategorySummary where
  name : String
  candidates : Nat
  kept : Nat
  shadowed : Nat
  emitted : Bool
  deriving DecidableEq, Repr

/-- What became of a resolved category; one without terms has no rule. -/
def Category.summary (c : Category) : CategorySummary :=
  ⟨c.name, c.candidates, c.terms.size, c.shadowed, !c.isEmpty⟩

/-- A grammar with an account of how it came about. -/
structure Generation where
  grammar : Grammar
  categories : List CategorySummary
  rules : Nat

/-- The grammar with the identity of a configuration and the given rules. -/
def Config.grammar (config : Config) (rules : List Rule) : Grammar :=
  ⟨config.schema, config.name, rules, ∅, config.scopeName⟩

/-- Generates the grammar that a configuration describes. -/
def generate (files : FileReader) (config : Config) : Traced Generation := do
  let cands ← collectCandidates files config
  let (categories, rules) ← buildRules cands config.precedence
  Traced.record (.generatedGrammar config.name rules.length)
  pure ⟨config.grammar rules, categories.map Category.summary, rules.length⟩

end KeywordGrammar
