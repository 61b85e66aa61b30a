/-
# The pattern for a set of terms

The terms become the branches of one group, between word boundaries and regardless of case.  Every
character that means something in a pattern is escaped, so a branch stands for its term and nothing
else, even for the empty term.
-/
import KeywordGrammar.Pattern

namespace KeywordGrammar

/-- The characters of a term as a pattern writes them. -/
def escapedTerm (term : List Char) : List Char :=
  term.flatMap (fun c => if isSyntax c then ['\\', c] else [c])

/-- The pattern that matches any of the terms as a whole word, regardless of case; the first one that
fits is taken. -/
def alternation (terms : List String) : String :=
  let branches := terms.map (fun t => escapedTerm t.toList)
  String.ofList ("(?i)\\b(".toList ++ List.intercalate ['|'] branches ++ ")\\b".toList)

/-- A point in a term stands for itself. -/
example : alternation ["action.start", "wave"] = "(?i)\\b(action\\.start|wave)\\b" := by
  decide +kernel

end KeywordGrammar
