/-
# Patterns as they are written

What is read is kept as a tree that knows, like that of a set, where each of its parts is written and
under which flags.  Its parts must not be nested too deep; whoever goes through a tree relies on that.
-/
import KeywordGrammar.Pattern.Brackets
import KeywordGrammar.Pattern.Flags
import KeywordGrammar.Pattern.Repeat

namespace KeywordGrammar.Pattern

/-! ## 1. The type -/

/-- A part without parts of its own. -/
inductive Atom where
  /-- What an escape can stand for too. -/
  | simple (e : Escape)
  /-- The point. -/
  | point
  | brackets (s : SetTree)

/-- A pattern as it is written. -/
inductive Tree where
  /-- Nothing, or a change of flags. -/
  | nothing
  | leaf (flags : Flags) (atom : Atom) (stretch : Stretch)
  | repetition (times : Times) (isGreedy : Bool) (body : Tree) (stretch : Stretch)
  /-- A group, with its number if it has one. -/
  | group (index : Option Nat) (body : Tree) (stretch : Stretch)
  | seq (parts : List Tree) (stretch : Stretch)
  | either (branches : List Tree) (stretch : Stretch)

namespace Tree

/-- Where a part that can be repeated starts. -/
def start? : Tree → Option Nat
  | nothing => none
  | leaf _ _ s => some s.start
  | repetition _ _ _ s => some s.start
  | group _ _ s => some s.start
  | seq _ s => some s.start
  | either _ s => some s.start

/-- Some parts between two places as one. -/
def inSequence (start stop : Nat) : List Tree → Tree
  | [] => nothing
  | [t] => t
  | parts => seq parts ⟨start, stop⟩

/-- Some branches between two places as one part. -/
def oneOf (start stop : Nat) : List Tree → Tree
  | [t] => t
  | branches => either branches ⟨start, stop⟩

end Tree

/-! ## 2. Nesting -/

/-- How many parts may be nested in one another. -/
def nestingLimit : Nat := 250

mutual

/-- The first part of a set that is nested too deep, inside of `depth` others. -/
def SetTree.tooDeep? (depth : Nat) : SetTree → Option Stretch
  | .brackets _ body s => if nestingLimit ≤ depth then some s else body.tooDeep? (depth + 1)
  | .union members s =>
    if nestingLimit ≤ depth then some s else SetTree.firstTooDeep? (depth + 1) members
  | .operation _ left right s =>
    if nestingLimit ≤ depth then some s
    else
      match left.tooDeep? (depth + 1) with
      | some s' => some s'
      | none => right.tooDeep? (depth + 1)
  | _ => none

/-- The first part of some sets that is nested too deep. -/
def SetTree.firstTooDeep? (depth : Nat) : List SetTree → Option Stretch
  | [] => none
  | t :: rest =>
    match t.tooDeep? depth with
    | some s => some s
    | none => SetTree.firstTooDeep? depth rest

end

mutual

/-- The first part that is nested too deep, inside of `depth` others. -/
def Tree.tooDeep? (depth : Nat) : Tree → Option Stretch
  | .nothing => none
  | .leaf _ (.brackets set) _ => set.tooDeep? depth
  | .leaf _ _ _ => none
  | .repetition _ _ body s => if nestingLimit ≤ depth then some s else body.tooDeep? (depth + 1)
  | .group _ body s => if nestingLimit ≤ depth then some s else body.tooDeep? (depth + 1)
  | .seq parts s => if nestingLimit ≤ depth then some s else Tree.firstTooDeep? (depth + 1) parts
  | .either parts s => if nestingLimit ≤ depth then some s else Tree.firstTooDeep? (depth + 1) parts

/-- The first of some parts that is nested too deep. -/
def Tree.firstTooDeep? (depth : Nat) : List Tree → Option Stretch
  | [] => none
  | t :: rest =>
    match t.tooDeep? depth with
    | some s => some s
    | none => Tree.firstTooDeep? depth rest

end

/-- The tree, if nothing in it is nested too deep. -/
def Tree.shallow (t : Tree) : Except SyntaxFault Tree :=
  match t.tooDeep? 0 with
  | some s => faultIn .nestedTooDeep s.start s.stop
  | none => .ok t

/-- Sets in brackets count like groups. -/
example : (Tree.leaf .start (.brackets (.brackets false (.empty 1) ⟨0, 2⟩)) ⟨0, 2⟩).tooDeep? 249 =
      none ∧
    (Tree.group none (.leaf .start (.brackets (.brackets false (.empty 2) ⟨1, 3⟩)) ⟨1, 3⟩)
      ⟨0, 4⟩).tooDeep? 249 = some ⟨1, 3⟩ := ⟨rfl, rfl⟩

end KeywordGrammar.Pattern
