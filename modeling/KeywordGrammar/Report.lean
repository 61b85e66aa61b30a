/-
# The report of a run

The report tells, for each category in precedence order, how many terms it kept and how many it lost.
Every span of text has a tone, which becomes a color if colors are wanted and nothing otherwise.
-/
import KeywordGrammar.Generation

namespace KeywordGrammar.Report

/-! ## 1. Tones -/

/-- What a span of text says. -/
inductive Tone where
  | title
  | heading
  | category
  | kept
  | shadowed
  | muted
  deriving DecidableEq, Repr

/-- The terminal's parameters for a tone. -/
def Tone.parameters : Tone → String
  | title => "1;36"
  | heading => "90"
  | category => "34"
  | kept => "32"
  | shadowed => "33"
  | muted => "2"

/-- A span of text in its tone. -/
def paint (color : Bool) (tone : Tone) (text : String) : String :=
  if color then "\x1b[" ++ tone.parameters ++ "m" ++ text ++ "\x1b[0m" else text

/-! ## 2. The report -/

/-- The line of the category at a rank. -/
def categoryLine (color : Bool) (rank : Nat) (s : CategorySummary) : String :=
  let status :=
    if s.emitted then paint color .kept ("✓ " ++ toString s.kept ++ " terms")
    else paint color .muted "✗ omitted (empty)"
  let lost := if 0 < s.shadowed then Tone.shadowed else Tone.muted
  paint color .heading ("[" ++ toString rank ++ "]") ++ " " ++ paint color .category s.name ++ " " ++
    status ++ "  " ++ paint color .muted "│" ++ " " ++
    paint color lost (toString s.shadowed ++ " shadowed")

/-- The lines of categories from a rank on. -/
def categoryLines (color : Bool) (rank : Nat) : List CategorySummary → List String
  | [] => []
  | s :: rest => ("  " ++ categoryLine color rank s) :: categoryLines color (rank + 1) rest

/-- The lines of the report of a run that took the time `elapsed`. -/
def lines (color : Bool) (config : Config) (g : Generation) (elapsed : String) : List String :=
  ["", paint color .title ("⚙  Grammar: " ++ config.name ++ " (" ++ config.scopeName ++ ")"),
    "  " ++ paint color .muted "data:" ++ " " ++ config.dataDirectory.path,
    "", paint color .heading "━━━ Categories (precedence order) ━━━"] ++
  categoryLines color 0 g.categories ++
  ["", paint color .heading "━━━ Output ━━━",
    "  Rules: " ++ paint color .kept (toString g.rules) ++ "  │  Elapsed: " ++
      paint color .muted elapsed, ""]

/-- The report of a run that took the time `elapsed`. -/
def text (color : Bool) (config : Config) (g : Generation) (elapsed : String) : String :=
  String.join ((lines color config g elapsed).map (· ++ "\n"))

/-- Without colors the line is plain. -/
example : categoryLine false 2 ⟨"keyword", 6, 5, 1, true⟩ = "[2] keyword ✓ 5 terms  │ 1 shadowed" := by
  decide +kernel

end KeywordGrammar.Report
