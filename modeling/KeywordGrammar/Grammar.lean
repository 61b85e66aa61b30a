/-
# Grammar documents

A grammar is the document that an editor reads: an identity, the rule list and a repository of named
parts.  It is written as JSON with its members in a fixed order; what a grammar or a rule does not
have is left out.
-/
import KeywordGrammar.Json.Printer
import KeywordGrammar.Rule

namespace KeywordGrammar

open Json

/-- A grammar document. -/
structure Grammar where
  schema : Option String
  name : String
  patterns : List Rule
  repository : Dictionary Value
  scopeName : String

/-- A member that is left out if there is nothing to write. -/
def optionalMember {α : Type} (key : String) (write : α → Value) :
    Option α → List (String × Value)
  | some a => [(key, write a)]
  | none => []

/-- The names of captures by group. -/
def capturesValue (captures : Dictionary String) : Value :=
  .object (captures.entries.map (fun e => (e.1, .object [("name", .string e.2)])))

/-- A rule as a JSON value. -/
def Rule.toValue (r : Rule) : Value :=
  .object (optionalMember "name" .string r.name ++ [("match", .string r.pattern)] ++
    optionalMember "captures" capturesValue r.captures)

/-- A rule on one line. -/
def Rule.text (r : Rule) : String := r.toValue.text .compact

namespace Grammar

/-- A grammar as a JSON value. -/
def toValue (g : Grammar) : Value :=
  .object (optionalMember "$schema" .string g.schema ++
    [("name", .string g.name), ("patterns", .array (g.patterns.map Rule.toValue)),
      ("repository", .object g.repository.entries), ("scopeName", .string g.scopeName)])

/-- The text of a grammar document: indented, with a line feed at its end. -/
def document (g : Grammar) : String := g.toValue.text .indented ++ "\n"

end Grammar

end KeywordGrammar
