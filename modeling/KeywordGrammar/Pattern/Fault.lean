/-
# Faults of written patterns

Why a text is no pattern, and where.  A fault concerns a stretch of the text, and sometimes an earlier
one that it conflicts with.  It is reported by showing the text with carets below these stretches; a
text of several lines is shown between dividers, with its lines numbered.
-/

namespace KeywordGrammar.Pattern

/-! ## 1. Causes -/

/-- Why a text is no pattern. -/
inductive SyntaxCause where
  | unclosedGroup
  | unopenedGroup
  | emptyGroupName
  | invalidGroupName
  | repeatedGroupName
  | unclosedGroupName
  | lookAround
  | danglingNegation
  | repeatedNegation
  | repeatedFlag
  | unknownFlag
  | unfinishedFlags
  | unclosedClass
  | classEscape
  | classRangeOrder
  | classRangeEnd
  | nothingToRepeat
  | unclosedCount
  | emptyCount
  | countTooLarge
  | countOrder
  | unfinishedEscape
  | unknownEscape
  | backreference
  | emptyHex
  | invalidHex
  | invalidHexDigit
  | invalidProperty
  | unclosedBoundary
  | unknownBoundary
  | unfinishedBoundary
  | nestedTooDeep
  | unknownProperty
  | unknownPropertyValue
  | unicodeNotAllowed
  | brokenEncoding
  deriving DecidableEq, Repr

/-- The wording of a cause. -/
def SyntaxCause.message : SyntaxCause → String
  | unclosedGroup => "unclosed group"
  | unopenedGroup => "unopened group"
  | emptyGroupName => "empty capture group name"
  | invalidGroupName => "invalid capture group character"
  | repeatedGroupName => "duplicate capture group name"
  | unclosedGroupName => "unclosed capture group name"
  | lookAround => "look-around, including look-ahead and look-behind, is not supported"
  | danglingNegation => "dangling flag negation operator"
  | repeatedNegation => "flag negation operator repeated"
  | repeatedFlag => "duplicate flag"
  | unknownFlag => "unrecognized flag"
  | unfinishedFlags => "expected flag but got end of regex"
  | unclosedClass => "unclosed character class"
  | classEscape => "invalid escape sequence found in character class"
  | classRangeOrder => "invalid character class range, the start must be <= the end"
  | classRangeEnd => "invalid range boundary, must be a literal"
  | nothingToRepeat => "repetition operator missing expression"
  | unclosedCount => "unclosed counted repetition"
  | emptyCount => "repetition quantifier expects a valid decimal"
  | countTooLarge => "decimal literal invalid"
  | countOrder => "invalid repetition count range, the start must be <= the end"
  | unfinishedEscape => "incomplete escape sequence, reached end of pattern prematurely"
  | unknownEscape => "unrecognized escape sequence"
  | backreference => "backreferences are not supported"
  | emptyHex => "hexadecimal literal empty"
  | invalidHex => "hexadecimal literal is not a Unicode scalar value"
  | invalidHexDigit => "invalid hexadecimal digit"
  | invalidProperty => "invalid Unicode character class"
  | unclosedBoundary =>
    "special word boundary assertion is either unclosed or contains an invalid character"
  | unknownBoundary =>
    "unrecognized special word boundary assertion, valid choices are: start, end, start-half " ++
      "or end-half"
  | unfinishedBoundary =>
    "found either the beginning of a special word boundary or a bounded repetition on a \\b with " ++
      "an opening brace, but no closing brace"
  | nestedTooDeep => "exceed the maximum number of nested parentheses/brackets (250)"
  | unknownProperty => "Unicode property not found"
  | unknownPropertyValue => "Unicode property value not found"
  | unicodeNotAllowed => "Unicode not allowed here"
  | brokenEncoding => "pattern can match invalid UTF-8"

/-! ## 2. Faults -/

/-- The characters of a text from place `start` to before place `stop`. -/
structure Stretch where
  start : Nat
  stop : Nat
  deriving DecidableEq, Repr

/-- A cause with the stretch it concerns, and an earlier one that this conflicts with. -/
structure SyntaxFault where
  cause : SyntaxCause
  stretch : Stretch
  earlier : Option Stretch
  deriving DecidableEq, Repr

/-- Fails over a stretch. -/
def faultIn {α : Type} (cause : SyntaxCause) (start stop : Nat) : Except SyntaxFault α :=
  .error ⟨cause, ⟨start, stop⟩, none⟩

/-- Fails at one character. -/
def faultAt {α : Type} (cause : SyntaxCause) (place : Nat) : Except SyntaxFault α :=
  faultIn cause place (place + 1)

/-! ## 3. Places in lines -/

/-- A line and the characters before a place in it, both counted from zero. -/
structure LinePlace where
  line : Nat
  column : Nat
  deriving DecidableEq, Repr

/-- From one place of a text to another. -/
structure LineStretch where
  start : LinePlace
  stop : LinePlace
  deriving DecidableEq, Repr

/-- Where a place of a text is. -/
def linePlace (text : List Char) (place : Nat) : LinePlace :=
  (text.take place).foldl (fun p c => if c = '\n' then ⟨p.line + 1, 0⟩ else ⟨p.line, p.column + 1⟩)
    ⟨0, 0⟩

/-- The lines of a text, less an empty one at the end; a carriage return in front of a line feed
belongs to neither line. -/
def linesOf (text : List Char) : List (List Char) :=
  let pieces := text.splitOn '\n'
  let ended := pieces.dropLast.map (fun l => if l.getLast? == some '\r' then l.dropLast else l)
  ended ++ (pieces.drop ended.length).filter (fun l => !l.isEmpty)

/-! ## 4. Reports -/

namespace SyntaxFault

/-- The stretches of a fault in the order of the text. -/
def stretches (f : SyntaxFault) : List Stretch :=
  match f.earlier with
  | none => [f.stretch]
  | some e =>
    if e.start < f.stretch.start ∨ e.start = f.stretch.start ∧ e.stop ≤ f.stretch.stop then
      [e, f.stretch]
    else [f.stretch, e]

/-- Carets below stretches given by their first column and their width, `column` columns having been
written; a stretch without width has one caret. -/
def carets (column : Nat) : List (Nat × Nat) → List Char
  | [] => []
  | (start, width) :: rest =>
    List.replicate (start - column) ' ' ++ List.replicate (max 1 width) '^' ++
      carets (max start column + max 1 width) rest

/-- The stretches that lie in one line, by first column and width. -/
def inLine (line : Nat) (all : List LineStretch) : List (Nat × Nat) :=
  all.filterMap (fun s =>
    if s.start.line = line ∧ s.stop.line = line then
      some (s.start.column, s.stop.column - s.start.column)
    else none)

/-- What is said about a stretch of several lines. -/
def acrossLines (s : LineStretch) : Option String :=
  if s.start.line = s.stop.line then none
  else some ("on line " ++ toString (s.start.line + 1) ++ " (column " ++
    toString (s.start.column + 1) ++ ") through line " ++ toString (s.stop.line + 1) ++
    " (column " ++ toString s.stop.column ++ ")")

/-- A number with blanks in front of it. -/
def padded (width number : Nat) : List Char :=
  let digits := Nat.toDigits 10 number
  List.replicate (width - digits.length) ' ' ++ digits

/-- The lines from number `line` on, each with its carets below it; numbers have `width` digits, and
none are shown if that is zero. -/
def notated (width : Nat) (all : List LineStretch) (line : Nat) : List (List Char) → List Char
  | [] => []
  | l :: rest =>
    let margin := if width = 0 then "    ".toList else padded width (line + 1) ++ [':', ' ']
    let marks := inLine line all
    let below :=
      if marks.isEmpty then []
      else List.replicate margin.length ' ' ++ carets 0 marks ++ ['\n']
    margin ++ l ++ '\n' :: below ++ notated width all (line + 1) rest

/-- The report of a fault in a pattern. -/
def report (f : SyntaxFault) (pattern : String) : String :=
  let text := pattern.toList
  let isSingle := !text.contains '\n'
  let width := if isSingle then 0 else (Nat.toDigits 10 (text.count '\n' + 1)).length
  let all := f.stretches.map (fun s =>
    LineStretch.mk (linePlace text s.start) (linePlace text s.stop))
  let shown := String.ofList (notated width all 0 (linesOf text))
  let divider := String.ofList (List.replicate 79 '~') ++ "\n"
  let across := all.filterMap acrossLines
  let body :=
    if isSingle then shown
    else
      divider ++ shown ++ divider ++
        (if across.isEmpty then "" else "\n".intercalate across ++ "\n")
  "regex parse error:\n" ++ body ++ "error: " ++ f.cause.message

/-- The caret stands below the character that the fault concerns. -/
example : report ⟨.unclosedGroup, ⟨1, 2⟩, none⟩ "a(b" =
    "regex parse error:\n    a(b\n     ^\nerror: unclosed group" := by decide +kernel

end SyntaxFault

end KeywordGrammar.Pattern
