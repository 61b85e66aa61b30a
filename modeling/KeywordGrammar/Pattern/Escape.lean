/-
# Escapes

A backslash and what follows it: a character that would mean something otherwise, a character by its
number, a set of characters, or a condition on the place.
-/
import KeywordGrammar.Pattern
import KeywordGrammar.Pattern.Cursor
import KeywordGrammar.Pattern.Fault

namespace KeywordGrammar.Pattern

/-! ## 1. The type -/

/-- A set of characters that has a name. -/
inductive NamedSet where
  | digit
  | blank
  | word
  /-- The characters with a property, or with a value of one. -/
  | property (name : List Char) (value : Option (List Char))
  deriving DecidableEq, Repr

/-- Where a place may stand between word characters and others. -/
inductive Boundary where
  | edge
  | noEdge
  | start
  | stop
  | startHalf
  | stopHalf
  deriving DecidableEq, Repr

/-- A condition on a place, as it is written. -/
inductive Condition where
  | lineStart
  | lineEnd
  | textStart
  | textEnd
  | word (b : Boundary)
  deriving DecidableEq, Repr

/-- What an escape stands for. -/
inductive Escape where
  /-- A character; `isByte` if it is written as the number of a byte. -/
  | letter (c : Char) (isByte : Bool)
  | set (isNegated : Bool) (s : NamedSet)
  | condition (c : Condition)
  deriving DecidableEq, Repr

/-- Whether a backslash in front of `c` has it stand for itself. -/
def isEscapable (c : Char) : Bool :=
  isSyntax c || (decide (c.toNat < 128) && !c.isAlphanum && c != '<' && c != '>')

/-- The other escapes of one character. -/
def shortEscapes : List (Char × Escape) := [
  ('d', .set false .digit), ('s', .set false .blank), ('w', .set false .word),
  ('D', .set true .digit), ('S', .set true .blank), ('W', .set true .word),
  ('a', .letter '\x07' false), ('f', .letter '\x0c' false), ('n', .letter '\n' false),
  ('r', .letter '\r' false), ('t', .letter '\t' false), ('v', .letter '\x0b' false),
  ('A', .condition .textStart), ('z', .condition .textEnd), ('B', .condition (.word .noEdge)),
  ('<', .condition (.word .start)), ('>', .condition (.word .stop))]

/-! ## 2. Characters by number -/

/-- The value of a hexadecimal digit. -/
def hexValue? (c : Char) : Option Nat :=
  if c.isDigit then some (c.toNat - '0'.toNat)
  else if 'a' ≤ c ∧ c ≤ 'f' then some (c.toNat - 'a'.toNat + 10)
  else if 'A' ≤ c ∧ c ≤ 'F' then some (c.toNat - 'A'.toNat + 10)
  else none

/-- The character with a number that was written from place `start` to place `stop`. -/
def numberedChar (number start stop : Nat) (isByte : Bool) : Except SyntaxFault Escape :=
  if number.isValidChar then .ok (.letter (Char.ofNat number) isByte)
  else faultIn .invalidHex start stop

/-- Reads so many hexadecimal digits behind those that make up `value`. -/
def hexDigits (verbose : Bool) : Nat → Nat → Cursor → Except SyntaxFault (Nat × Cursor)
  | 0, value, c => .ok (value, c)
  | n + 1, value, c =>
    match c.rest with
    | [] => faultIn .unfinishedEscape c.place c.place
    | d :: _ =>
      match hexValue? d with
      | some v => hexDigits verbose n (16 * value + v) (c.next verbose)
      | none => faultAt .invalidHexDigit c.place

/-- A number that no character has. -/
def beyondChars : Nat := 0x110000

/-- The number that hexadecimal digits write, or `beyondChars` if it is larger than that. -/
def hexNumber (value : Nat) : List (Nat × Char) → Except SyntaxFault Nat
  | [] => .ok value
  | (place, d) :: rest =>
    match hexValue? d with
    | some v => hexNumber (min (16 * value + v) beyondChars) rest
    | none => faultAt .invalidHexDigit place

/-- Reads the number of a character: digits in braces, or `count` digits. -/
def readNumbered (verbose : Bool) (count : Nat) (c : Cursor) :
    Except SyntaxFault (Escape × Cursor) :=
  match c.rest with
  | '\x7b' :: rest => do
    let (digits, close) := bracedFrom verbose false (c.place + 1) rest
    let number ← hexNumber 0 digits
    match close with
    | none => faultIn .unfinishedEscape c.place c.finish
    | some brace =>
      let behind := brace.next verbose
      if digits.isEmpty then faultIn .emptyHex c.place behind.place
      else return (← numberedChar number (c.place + 1) brace.place false, behind)
  | _ => do
    let (number, behind) ← hexDigits verbose count 0 c
    return (← numberedChar number c.place behind.place (count == 2), behind)

/-! ## 3. Properties and boundaries -/

/-- What stands in front of a mark and behind it, at its first place in a text. -/
def splitAt? (mark : List Char) : List Char → Option (List Char × List Char)
  | [] => none
  | c :: rest =>
    if mark.isPrefixOf (c :: rest) then some ([], (c :: rest).drop mark.length)
    else (splitAt? mark rest).map (fun p => (c :: p.1, p.2))

/-- The property that a text in braces names; a value stands behind one of several marks, which all
mean the same. -/
def propertyOf (text : List Char) : NamedSet :=
  match [['!', '='], [':'], ['=']].findSome? (splitAt? · text) with
  | some (name, value) => .property name (some value)
  | none => .property text none

/-- Reads the name of a property of characters: one character, or any in braces. -/
def readProperty (verbose isNegated : Bool) (c : Cursor) : Except SyntaxFault (Escape × Cursor) :=
  match c.rest with
  | [] => faultIn .unfinishedEscape c.place c.place
  | '\x7b' :: rest =>
    match bracedFrom verbose false (c.place + 1) rest with
    | (name, some brace) => .ok (.set isNegated (propertyOf (name.map Prod.snd)), brace.skip 1)
    | (_, none) => faultIn .unfinishedEscape c.finish c.finish
  | '\\' :: _ => faultAt .invalidProperty c.place
  | d :: _ => .ok (.set isNegated (.property [d] none), c.next verbose)

/-- The kinds of boundary that are written in braces. -/
def boundaryKinds : List (String × Boundary) :=
  [("start", .start), ("end", .stop), ("start-half", .startHalf), ("end-half", .stopHalf)]

/-- Whether `c` may stand in the name of a kind of boundary. -/
def isBoundaryChar (c : Char) : Bool := c.isAlpha || c == '-'

/-- Reads what follows `\b`, whose backslash is at place `start`: perhaps a kind of boundary in
braces, unless these hold a count. -/
def readBoundary (verbose : Bool) (start : Nat) (c : Cursor) :
    Except SyntaxFault (Boundary × Cursor) :=
  match c.rest with
  | '\x7b' :: rest =>
    match bracedFrom verbose false (c.place + 1) rest with
    | ([], none) => faultIn .unfinishedBoundary start c.finish
    | ([], some _) => .ok (.edge, c)
    | ((place, d) :: others, close) =>
      if !isBoundaryChar d then .ok (.edge, c)
      else
        match others.find? (fun o => !isBoundaryChar o.2), close with
        | some o, _ => faultIn .unclosedBoundary c.place o.1
        | none, none => faultIn .unclosedBoundary c.place c.finish
        | none, some brace =>
          match boundaryKinds.lookup (String.ofList (d :: others.map Prod.snd)) with
          | some b => .ok (b, brace.skip 1)
          | none => faultIn .unknownBoundary place brace.place
  | _ => .ok (.edge, c)

/-! ## 4. Reading -/

/-- Reads an escape whose backslash is at place `start`, in front of the text. -/
def readEscape (verbose : Bool) (start : Nat) : List Char → Except SyntaxFault (Escape × Cursor)
  | [] => faultIn .unfinishedEscape start (start + 1)
  | c :: rest =>
    let behind : Cursor := ⟨start + 2, rest⟩
    if isEscapable c then .ok (.letter c false, behind)
    else if c.isDigit then faultIn .backreference start (start + 2)
    else if c = 'x' then readNumbered verbose 2 (behind.skipGap verbose)
    else if c = 'u' then readNumbered verbose 4 (behind.skipGap verbose)
    else if c = 'U' then readNumbered verbose 8 (behind.skipGap verbose)
    else if c = 'p' ∨ c = 'P' then readProperty verbose (c == 'P') (behind.skipGap verbose)
    else if c = 'b' then
      (readBoundary verbose start behind).map (fun b => (.condition (.word b.1), b.2))
    else
      match shortEscapes.lookup c with
      | some e => .ok (e, behind)
      | none => faultIn .unknownEscape start (start + 2)

/-- A character that means something stands for itself, whatever follows. -/
theorem readEscape_of_isSyntax {c : Char} (h : isSyntax c = true) (verbose : Bool) (start : Nat)
    (rest : List Char) :
    readEscape verbose start (c :: rest) = .ok (.letter c false, ⟨start + 2, rest⟩) := by
  simp [readEscape, isEscapable, h]

/-- A character by its number, a boundary with a count, and a property with a value. -/
example : readEscape false 0 "x41b".toList = .ok (.letter 'A' true, ⟨4, ['b']⟩) ∧
    readEscape false 0 "b\x7b2\x7d".toList =
      .ok (.condition (.word .edge), ⟨2, "\x7b2\x7d".toList⟩) ∧
    readEscape false 0 "P\x7bsc=Yi\x7d".toList =
      .ok (.set true (.property ['s', 'c'] (some ['Y', 'i'])), ⟨9, []⟩) := ⟨rfl, rfl, rfl⟩

end KeywordGrammar.Pattern
