/-
# JSON values

A JSON value as it is written: the members of an object keep their order and their repetitions.  An
integer is kept as such; every other number is the double it denotes, sign and magnitude apart since
a zero has a sign.
-/
import KeywordGrammar.Number.Shortest
import KeywordGrammar.Text.Quoted

namespace KeywordGrammar.Json

/-- A JSON value. -/
inductive Value where
  | null
  | bool (b : Bool)
  | int (n : Int)
  | float (negative : Bool) (magnitude : Binary64)
  | string (s : String)
  | array (items : List Value)
  | object (members : List (String × Value))
  deriving Inhabited

/-- The decimal text of a double with its sign. -/
def floatText (negative : Bool) (magnitude : Binary64) : List Char :=
  if negative then '-' :: magnitude.text else magnitude.text

namespace Value

/-- What kind of value this is, for a message: a scalar is shown, a nested value is not. -/
def description : Value → String
  | null => "null"
  | bool b => "boolean `" ++ (if b then "true" else "false") ++ "`"
  | int n => "integer `" ++ toString n ++ "`"
  | float negative magnitude =>
    "floating point `" ++ String.ofList (floatText negative magnitude) ++ "`"
  | string s => "string " ++ Text.quoted s
  | array _ => "sequence"
  | object _ => "map"

/-- The text of a string. -/
def string? : Value → Option String
  | string s => some s
  | _ => none

end Value

end KeywordGrammar.Json
