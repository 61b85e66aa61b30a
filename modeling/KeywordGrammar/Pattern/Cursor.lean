/-
# Cursors

A cursor stands somewhere in a pattern that is being read: it knows its place and what follows.  In a
verbose pattern blanks and comments may stand between the parts, and a cursor can step over them.
-/
import KeywordGrammar.Unicode.Blank

namespace KeywordGrammar.Pattern

open Unicode

/-! ## 1. Gaps -/

/-- The length of the blanks and comments at the front of a text; a comment starts with `#` and ends
with its line. -/
def gapFrom (inComment : Bool) : List Char → Nat
  | [] => 0
  | c :: rest =>
    if inComment then gapFrom (c != '\n') rest + 1
    else if isBlank c then gapFrom false rest + 1
    else if c = '#' then gapFrom true rest + 1
    else 0

/-- The length of the gap at the front of a text, which only a verbose pattern can have. -/
def gap (verbose : Bool) (text : List Char) : Nat := if verbose then gapFrom false text else 0

/-! ## 2. The type -/

/-- A place in a pattern, with what follows. -/
structure Cursor where
  place : Nat
  rest : List Char
  deriving DecidableEq, Repr

namespace Cursor

/-- So many characters further. -/
def skip (c : Cursor) (n : Nat) : Cursor := ⟨c.place + (c.rest.take n).length, c.rest.drop n⟩

/-- Behind the gap here. -/
def skipGap (c : Cursor) (verbose : Bool) : Cursor := c.skip (gap verbose c.rest)

/-- Behind the next character and the gap that follows it. -/
def next (c : Cursor) (verbose : Bool) : Cursor := (c.skip 1).skipGap verbose

/-- Behind the blanks here. -/
def skipBlanks (c : Cursor) : Cursor := c.skip (c.rest.takeWhile isBlank).length

/-- Behind some text, if it stands here. -/
def skipText? (c : Cursor) (text : String) : Option Cursor :=
  if text.toList.isPrefixOf c.rest then some (c.skip text.length) else none

/-- Where the pattern ends. -/
def finish (c : Cursor) : Nat := c.place + c.rest.length

theorem length_skip_le (c : Cursor) (n : Nat) : (c.skip n).rest.length ≤ c.rest.length := by
  simp [skip]

theorem length_next_lt {c : Cursor} {verbose : Bool} {d : Char} {r : List Char}
    (h : c.rest = d :: r) : (c.next verbose).rest.length < c.rest.length := by
  have h₁ := (c.skip 1).length_skip_le (gap verbose (c.skip 1).rest)
  have h₂ : (c.skip 1).rest = r := by simp [skip, h]
  rw [h₂] at h₁
  simp only [next, skipGap, h₂, h, List.length_cons]
  exact Nat.lt_succ_of_le h₁

end Cursor

/-! ## 3. Text in braces -/

/-- The characters in front of a closing brace, with their places, gaps left out, and a cursor at that
brace if there is one. -/
def bracedFrom (verbose inComment : Bool) (place : Nat) :
    List Char → List (Nat × Char) × Option Cursor
  | [] => ([], none)
  | c :: rest =>
    if inComment then bracedFrom verbose (c != '\n') (place + 1) rest
    else if verbose && isBlank c then bracedFrom verbose false (place + 1) rest
    else if verbose && c == '#' then bracedFrom verbose true (place + 1) rest
    else if c = '\x7d' then ([], some ⟨place, c :: rest⟩)
    else
      let (found, close) := bracedFrom verbose false (place + 1) rest
      ((place, c) :: found, close)

end KeywordGrammar.Pattern
