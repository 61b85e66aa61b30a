/-
# Counts

How often a part is repeated is written with a sign, or with numbers in braces.  A question mark behind
it asks for as few repetitions as possible.
-/
import KeywordGrammar.Pattern.Cursor
import KeywordGrammar.Pattern.Fault

namespace KeywordGrammar.Pattern

/-! ## 1. The type -/

/-- How often a part may be repeated. -/
structure Times where
  least : Nat
  /-- No bound if there is none. -/
  most : Option Nat
  deriving DecidableEq, Repr

/-- A count as it is written. -/
structure WrittenCount where
  times : Times
  /-- Whether a question mark stands behind it. -/
  isMarked : Bool
  deriving DecidableEq, Repr

/-- Reads the question mark that may stand behind a count. -/
def WrittenCount.read (times : Times) (c : Cursor) : WrittenCount × Cursor :=
  match c.skipText? "?" with
  | some behind => (⟨times, true⟩, behind)
  | none => (⟨times, false⟩, c)

/-- The counts that have a sign. -/
def signTimes : List (Char × Times) := [('?', ⟨0, some 1⟩), ('*', ⟨0, none⟩), ('+', ⟨1, none⟩)]

/-! ## 2. Numbers -/

/-- The largest number that a count may have. -/
def maxCount : Nat := 4294967295

/-- Reads decimal digits behind those that make up `value`, and the gaps that follow them.  Numbers past
`maxCount` are all the same. -/
def decimalFrom (verbose : Bool) (value : Nat) (c : Cursor) : Nat × Cursor :=
  match h : c.rest with
  | [] => (value, c)
  | d :: _ =>
    if d.isDigit then
      decimalFrom verbose (min (10 * value + (d.toNat - '0'.toNat)) (maxCount + 1)) (c.next verbose)
    else (value, c)
termination_by c.rest.length
decreasing_by exact Cursor.length_next_lt h

/-- Reads a number between blanks.  The cursor behind it is known even if the number is at fault. -/
def readNumber (verbose : Bool) (c : Cursor) : Except SyntaxFault Nat × Cursor :=
  let front := c.skipBlanks
  let (number, stop) := decimalFrom verbose 0 front
  let behind := stop.skipBlanks
  let behind := if behind.place = stop.place then behind else behind.skipGap verbose
  if front.place = stop.place then (faultIn .emptyCount front.place front.place, behind)
  else if maxCount < number then (faultIn .countTooLarge front.place stop.place, behind)
  else (.ok number, behind)

/-! ## 3. Counts in braces -/

/-- Reads the closing brace of a count that starts at place `start`, and a question mark behind it. -/
def closeCount (verbose : Bool) (start : Nat) (times : Times) (c : Cursor) :
    Except SyntaxFault (WrittenCount × Cursor) :=
  if c.rest.head? == some '\x7d' then
    let (count, behind) := WrittenCount.read times (c.next verbose)
    if times.most.all (times.least ≤ ·) then .ok (count, behind)
    else faultIn .countOrder start behind.place
  else faultIn .unclosedCount start c.place

/-- Reads a count whose opening brace is here: a number, a number and more, or from one number to
another. -/
def readCount (verbose : Bool) (c : Cursor) : Except SyntaxFault (WrittenCount × Cursor) :=
  let inside := c.next verbose
  let (least, behind) := readNumber verbose inside
  if inside.rest.isEmpty ∨ behind.rest.isEmpty then faultIn .unclosedCount c.place c.finish
  else if behind.rest.head? != some ',' then do
    let least ← least
    closeCount verbose c.place ⟨least, some least⟩ behind
  else
    let second := behind.next verbose
    if second.rest.isEmpty then faultIn .unclosedCount c.place c.finish
    else if second.rest.head? == some '\x7d' then do
      closeCount verbose c.place ⟨← least, none⟩ second
    else do
      let least ← least
      let (most, behind) := readNumber verbose second
      closeCount verbose c.place ⟨least, some (← most)⟩ behind

/-- The end of the pattern is noticed before a missing number. -/
example : readCount false ⟨1, "\x7b2,3\x7d?b".toList⟩ = .ok (⟨⟨2, some 3⟩, true⟩, ⟨7, ['b']⟩) ∧
    readCount false ⟨1, "\x7b3,2\x7d".toList⟩ = .error ⟨.countOrder, ⟨1, 6⟩, none⟩ ∧
    readCount false ⟨1, "\x7b,".toList⟩ = .error ⟨.unclosedCount, ⟨1, 3⟩, none⟩ := by cbv

end KeywordGrammar.Pattern
