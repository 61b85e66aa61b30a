/-
# Opening parentheses

What stands behind an opening parenthesis says what the group is: numbered, perhaps with a name, or
only there to hold its parts together, or no group at all but a place where flags change.
-/
import KeywordGrammar.Pattern.Flags
import KeywordGrammar.Unicode.Letter

namespace KeywordGrammar.Pattern

open Unicode

/-! ## 1. The type -/

/-- The name of a group and where it is written. -/
structure GroupName where
  text : List Char
  stretch : Stretch
  deriving DecidableEq, Repr

/-- What an opening parenthesis opens. -/
inductive Opening where
  | numbered (name : Option GroupName)
  /-- A group without a number, in which flags may be changed. -/
  | plain (flags : List Char)
  /-- No group: flags that are changed up to the end of the group around. -/
  | change (flags : List Char)
  deriving DecidableEq, Repr

/-! ## 2. Names -/

/-- Whether `c` may stand in the name of a group. -/
def isNameChar (atFront : Bool) (c : Char) : Bool :=
  if atFront then c == '_' || isLetter c
  else c == '_' || c == '.' || c == '[' || c == ']' || isLetterOrNumber c

/-- Reads a name up to its angle bracket; `read` are the characters before this place, the last
first. -/
def nameFrom (start : Nat) (read : List Char) (place : Nat) :
    List Char → Except SyntaxFault (GroupName × Cursor)
  | [] => faultIn .unclosedGroupName place place
  | c :: rest =>
    if c = '>' then
      if read.isEmpty then faultIn .emptyGroupName start start
      else .ok (⟨read.reverse, ⟨start, place⟩⟩, ⟨place + 1, rest⟩)
    else if isNameChar read.isEmpty c then nameFrom start (c :: read) (place + 1) rest
    else faultAt .invalidGroupName place

/-! ## 3. Reading -/

/-- Marks of conditions on what stands before or after a place. -/
def lookMarks : List String := ["?=", "?!", "?<=", "?<!"]

/-- Reads what follows the parenthesis at place `start`. -/
def Opening.read (verbose : Bool) (start : Nat) (c : Cursor) :
    Except SyntaxFault (Opening × Cursor) :=
  let c := c.skipGap verbose
  match lookMarks.findSome? c.skipText? with
  | some behind => faultIn .lookAround start behind.place
  | none =>
    match (c.skipText? "?P<").or (c.skipText? "?<") with
    | some name => do
      let (name, behind) ← nameFrom name.place [] name.place name.rest
      return (.numbered (some name), behind)
    | none =>
      match c.rest with
      | '?' :: [] => faultAt .unclosedGroup start
      | '?' :: rest => do
        let (flags, close) ← flagsFrom [] (c.place + 1) rest
        if close.rest.head? == some ':' then return (.plain flags, close.skip 1)
        else if flags.isEmpty then faultIn .nothingToRepeat c.place c.place
        else return (.change flags, close.skip 1)
      | _ => .ok (.numbered none, c)

/-- Without a question mark the group has a number and no name. -/
example : Opening.read false 0 ⟨1, "?P<n>a".toList⟩ =
      .ok (.numbered (some ⟨['n'], ⟨4, 5⟩⟩), ⟨6, ['a']⟩) ∧
    Opening.read false 0 ⟨1, "?i:a".toList⟩ = .ok (.plain ['i'], ⟨4, ['a']⟩) ∧
    Opening.read false 0 ⟨1, "a".toList⟩ = .ok (.numbered none, ⟨1, ['a']⟩) := ⟨rfl, rfl, rfl⟩

end KeywordGrammar.Pattern
