/-
# The lines of a flat list

A flat list holds one term a line.  Blanks around a term do not belong to it and blank lines hold no
term, so it makes no difference whether a line ends with a line feed alone or with a carriage return
before it: the carriage return is a blank.
-/
import KeywordGrammar.Unicode.Blank

namespace KeywordGrammar.Text

open Unicode

/-- A text without the blanks at its two ends. -/
def trim (text : List Char) : List Char :=
  ((text.dropWhile isBlank).reverse.dropWhile isBlank).reverse

/-- The terms of a flat list: its lines, trimmed, less the blank ones. -/
def termLines (text : String) : List String :=
  (((text.toList.splitOn '\n').map trim).filter (fun line => !line.isEmpty)).map String.ofList

/-- A blank line and the blanks around a term leave no trace. -/
example : termLines "Action\r\n\n  Target\u3000 \n" = ["Action", "Target"] := by decide +kernel

/-- A carriage return inside a line does not end it. -/
example : termLines "a\rb" = ["a\rb"] := by decide +kernel

end KeywordGrammar.Text
