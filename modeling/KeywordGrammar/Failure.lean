/-
# Failures

Every failure ends a run, since an incomplete grammar would silently take tokens for something else.
A failure is kept as its cause; `message` has the wording.
-/
import KeywordGrammar.FileSystem
import KeywordGrammar.Json.Fault
import KeywordGrammar.Rule

namespace KeywordGrammar

/-- Why there is no grammar. -/
inductive Failure where
  /-- A file cannot be read, or the document cannot be written. -/
  | file (path : String) (cause : FileFault)
  /-- A mapping is malformed. -/
  | json (path : String) (cause : Json.Fault) (position : Json.Position)
  /-- The order cannot rank the categories. -/
  | precedence (cause : PrecedenceFault)
  /-- A rule cannot use its pattern. -/
  | pattern (cause : RuleFault)
  deriving DecidableEq, Repr

/-- The wording of a failure. -/
def Failure.message : Failure → String
  | file path cause => "cannot read source " ++ path ++ ": " ++ cause.message
  | json path cause position =>
    "malformed source " ++ path ++ ": " ++ cause.message ++ " at line " ++ toString position.line ++
      " column " ++ toString position.column
  | precedence (.unlisted category) =>
    "category `" ++ category ++ "` is not listed in the precedence order"
  | precedence (.repeated category) =>
    "category `" ++ category ++ "` is listed more than once in the precedence order"
  | pattern cause =>
    "rule `" ++ cause.label ++ "` produced an invalid pattern: " ++ cause.fault.message

end KeywordGrammar
