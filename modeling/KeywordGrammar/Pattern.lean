/-
# Patterns

The patterns that rules are made of: literals, sets of characters with a count, anchors, sequences,
alternatives and numbered groups.  Whatever else can be written in a pattern is kept as a part that
nothing matches.

A rule holds the written form.  `Pattern/Reading` reads it, for what is searched and for the shape of
its automata.  `Pattern/Search` says which matches there are, and `Pattern/Starts` finds them fast;
`Pattern/Size` reckons how large the automata are; `Pattern/Alternation` writes the pattern for a set of
terms.
-/
import KeywordGrammar.Unicode.Blank
import KeywordGrammar.Unicode.Digit
import KeywordGrammar.Unicode.Fold
import KeywordGrammar.Unicode.Word

namespace KeywordGrammar

open Unicode

/-! ## 1. Sets of characters -/

/-- What one character of a pattern stands for. -/
inductive CharSet where
  /-- One character, up to case if `caseless`. -/
  | exactly (caseless : Bool) (c : Char)
  /-- Any character but a line feed. -/
  | inLine
  | blank
  | digit
  | word
  deriving DecidableEq, Repr

/-- Whether two characters are the same, up to case if `caseless`. -/
def sameChar (caseless : Bool) (c d : Char) : Bool :=
  if caseless then fold c == fold d else c == d

/-- Whether a character is in the set. -/
def CharSet.contains : CharSet → Char → Bool
  | exactly caseless c, d => sameChar caseless c d
  | inLine, d => d != '\n'
  | blank, d => isBlank d
  | digit, d => isDecimalDigit d
  | word, d => isWord d

/-- The characters that mean something in the written form of a pattern, or may come to. -/
def isSyntax (c : Char) : Bool :=
  "\\.+*?()|[]\x7b\x7d^$#&-~".toList.contains c

/-! ## 2. Counts and anchors -/

/-- How many characters of a set are taken; as many as possible are tried first. -/
inductive Count where
  | one
  | atMostOne
  | any
  | atLeastOne
  deriving DecidableEq, Repr

/-- A condition on a place of the text. -/
inductive Anchor where
  | textStart
  | textEnd
  | wordBoundary
  deriving DecidableEq, Repr

/-! ## 3. Patterns -/

/-- A pattern; its groups are numbered from 1 in the order of their opening parentheses. -/
inductive Pattern where
  | literal (caseless : Bool) (text : List Char)
  | run (set : CharSet) (count : Count)
  | anchor (a : Anchor)
  | seq (first second : Pattern)
  | either (first second : Pattern)
  | group (index : Nat) (body : Pattern)
  /-- A part that is well written but that no rule is made of; it is not searched for. -/
  | foreign
  deriving DecidableEq, Repr

namespace Pattern

/-- The pattern of the empty text. -/
def empty : Pattern := literal false []

/-- One pattern behind the other. -/
def inSequence : List Pattern → Pattern
  | [] => empty
  | [p] => p
  | p :: rest => seq p (inSequence rest)

/-- One pattern or else the next. -/
def oneOf : List Pattern → Pattern
  | [] => empty
  | [p] => p
  | p :: rest => either p (oneOf rest)

/-- The largest number of a group. -/
def groupCount : Pattern → Nat
  | literal _ _ => 0
  | run _ _ => 0
  | anchor _ => 0
  | seq p q => max p.groupCount q.groupCount
  | either p q => max p.groupCount q.groupCount
  | group index p => max index p.groupCount
  | foreign => 0

end Pattern

end KeywordGrammar
