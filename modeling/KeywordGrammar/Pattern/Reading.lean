/-
# Reading patterns

The text of a pattern is read once, for what is searched and for the shape of its automata.
-/
import KeywordGrammar.Pattern.Meaning
import KeywordGrammar.Pattern.Shaping
import KeywordGrammar.Pattern.Written

namespace KeywordGrammar.Pattern

/-- What is known of a pattern that has been read. -/
structure Reading where
  /-- What is searched for. -/
  meaning : Pattern
  /-- What its automata are made of. -/
  shape : Shape

/-- Reads the text of a pattern. -/
def read (text : String) : Except SyntaxFault Reading :=
  match Tree.read text with
  | .error e => .error e
  | .ok t => (Shape.ofTree t).map (Reading.mk (ofTree t))

/-- A count concerns one character, a bar the whole group. -/
example : (read "a(bc+|)$").toOption.map Reading.meaning = some
    (.seq (.literal false ['a'])
      (.seq (.group 1 (.either (.seq (.literal false ['b']) (.run (.exactly false 'c') .atLeastOne))
        (.literal false []))) (.anchor .textEnd))) := by decide +kernel

/-- What no rule is made of is read too. -/
example : (read "[a-z]\\.").toOption.map Reading.meaning =
    some (.seq .foreign (.literal false ['.'])) := by decide +kernel

end KeywordGrammar.Pattern
