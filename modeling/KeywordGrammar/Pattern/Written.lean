/-
# The written form of patterns

A pattern is read from left to right.  The reader holds the finished branches of the group it is in and
the parts of the current one; entering a group puts all that aside.  Everything that may be written in
a pattern is read, so that a fault is found where it is.
-/
import KeywordGrammar.Pattern.Opening
import KeywordGrammar.Pattern.Tree

namespace KeywordGrammar.Pattern

/-! ## 1. The state of the reader -/

/-- What was put aside when a group was entered. -/
structure Outer where
  openedAt : Nat
  /-- The number of the group, if it has one. -/
  index : Option Nat
  flags : Flags
  bodyStart : Nat
  branchStart : Nat
  branches : List Tree
  parts : List Tree

/-- The state of the reader; lists hold the last part first. -/
structure State where
  flags : Flags
  groups : Nat
  names : List GroupName
  /-- Where the first branch of the current group starts. -/
  bodyStart : Nat
  /-- Where the current branch starts. -/
  branchStart : Nat
  branches : List Tree
  parts : List Tree
  outer : List Outer

namespace State

/-- The state in front of a pattern. -/
def start : State := ⟨.start, 0, [], 0, 0, [], [], []⟩

/-- The current branch, up to a place. -/
def branch (s : State) (stop : Nat) : Tree := .inSequence s.branchStart stop s.parts.reverse

/-- The branches of the current group as one part, up to a place. -/
def body (s : State) (stop : Nat) : Tree :=
  .oneOf s.bodyStart stop (s.branch stop :: s.branches).reverse

/-! ## 2. Parts -/

/-- Behind one more part. -/
def push (s : State) (t : Tree) : State := { s with parts := t :: s.parts }

/-- Behind one more part without parts of its own. -/
def pushAtom (s : State) (atom : Atom) (start stop : Nat) : State :=
  s.push (.leaf s.flags atom ⟨start, stop⟩)

/-- Behind a letter that stands for itself. -/
def pushLetter (s : State) (c : Char) (start stop : Nat) : State :=
  s.pushAtom (.simple (.letter c false)) start stop

/-- Behind a count that starts at a place; it concerns the last part. -/
def repeatLast (s : State) (place : Nat) (count : Except SyntaxFault (WrittenCount × Cursor)) :
    Except SyntaxFault (State × Cursor) :=
  match s.parts with
  | [] => faultIn .nothingToRepeat place place
  | t :: others =>
    match t.start? with
    | none => faultIn .nothingToRepeat place place
    | some start => do
      let (n, behind) ← count
      let isGreedy := n.isMarked == s.flags.swapGreed
      let repeated := Tree.repetition n.times isGreedy t ⟨start, behind.place⟩
      return ({ s with parts := repeated :: others }, behind)

/-- Behind a bar at a place. -/
def nextBranch (s : State) (place : Nat) : State :=
  { s with branches := s.branch place :: s.branches, parts := [], branchStart := place + 1 }

/-! ## 3. Groups -/

/-- Inside a group that was opened at one place and has its first branch at another. -/
def enterGroup (s : State) (openedAt : Nat) (index : Option Nat) (inside : Nat) : State :=
  { s with
    bodyStart := inside, branchStart := inside, branches := [], parts := []
    outer := ⟨openedAt, index, s.flags, s.bodyStart, s.branchStart, s.branches, s.parts⟩ :: s.outer }

/-- Inside the next numbered group. -/
def enterNumbered (s : State) (openedAt inside : Nat) : State :=
  { s.enterGroup openedAt (some (s.groups + 1)) inside with groups := s.groups + 1 }

/-- Behind what stands at the front of a group. -/
def openGroup (s : State) (openedAt inside : Nat) : Opening → Except SyntaxFault State
  | .numbered none => .ok (s.enterNumbered openedAt inside)
  | .numbered (some name) =>
    match s.names.find? (fun n => n.text == name.text) with
    | some earlier => .error ⟨.repeatedGroupName, name.stretch, some earlier.stretch⟩
    | none => .ok { s.enterNumbered openedAt inside with names := name :: s.names }
  | .plain flags =>
    .ok { s.enterGroup openedAt none inside with flags := s.flags.apply true flags }
  | .change flags => .ok { s.push .nothing with flags := s.flags.apply true flags }

/-- Behind a closing parenthesis at a place. -/
def closeGroup (s : State) (place : Nat) : Except SyntaxFault State :=
  match s.outer with
  | [] => faultAt .unopenedGroup place
  | o :: rest =>
    .ok { s with
      flags := o.flags, bodyStart := o.bodyStart, branchStart := o.branchStart
      branches := o.branches
      parts := .group o.index (s.body place) ⟨o.openedAt, place + 1⟩ :: o.parts, outer := rest }

/-! ## 4. Steps -/

/-- The conditions that have a sign. -/
def signConditions : List (Char × Condition) := [('^', .lineStart), ('$', .lineEnd)]

/-- The state behind the part that starts with `c`, and a cursor there. -/
def step (s : State) (place : Nat) (c : Char) (rest : List Char) :
    Except SyntaxFault (State × Cursor) :=
  let here : Cursor := ⟨place, c :: rest⟩
  let behind : Cursor := ⟨place + 1, rest⟩
  let verbose := s.flags.verbose
  if verbose ∧ (Unicode.isBlank c ∨ c = '#') then .ok (s, here.skipGap verbose)
  else if c = '\\' then do
    let (e, close) ← readEscape verbose place rest
    return (s.pushAtom (.simple e) place close.place, close)
  else if c = '(' then do
    let (opening, inside) ← Opening.read verbose place behind
    return (← s.openGroup place inside.place opening, inside)
  else if c = ')' then (s.closeGroup place).map (fun s => (s, behind))
  else if c = '|' then .ok (s.nextBranch place, behind)
  else if c = '[' then do
    let (set, close) ← readBrackets verbose here
    return (s.pushAtom (.brackets set) place close.place, close)
  else if c = '.' then .ok (s.pushAtom .point place (place + 1), behind)
  else if c = '\x7b' then s.repeatLast place (readCount verbose here)
  else
    match signTimes.lookup c, signConditions.lookup c with
    | some times, _ => s.repeatLast place (.ok (WrittenCount.read times behind))
    | none, some condition =>
      .ok (s.pushAtom (.simple (.condition condition)) place (place + 1), behind)
    | none, none => .ok (s.pushLetter c place (place + 1), behind)

/-- What has been read when the text ends at a place. -/
def finish (s : State) (place : Nat) : Except SyntaxFault Tree :=
  match s.outer with
  | o :: _ => faultAt .unclosedGroup o.openedAt
  | [] => .ok (s.body place)

end State

/-! ## 5. Reading -/

/-- What stands in all of a text, from a place on, after passing over `skip` characters that have been
read. -/
def readFrom (s : State) (place skip : Nat) : List Char → Except SyntaxFault Tree
  | [] => s.finish place
  | c :: rest =>
    match skip with
    | n + 1 => readFrom s (place + 1) n rest
    | 0 =>
      match s.step place c rest with
      | .ok (s', behind) => readFrom s' (place + 1) (behind.place - (place + 1)) rest
      | .error e => .error e

/-- An escaped character is a letter. -/
theorem readFrom_escaped {s : State} (h : s.flags.verbose = false) {c : Char}
    (hc : isSyntax c = true) (place : Nat) (rest : List Char) :
    readFrom s place 0 ('\\' :: c :: rest) =
      readFrom (s.pushLetter c place (place + 2)) (place + 2) 0 rest := by
  simp [readFrom, State.step, h, readEscape_of_isSyntax hc, State.pushLetter, bind, Except.bind, pure,
    Except.pure]

/-- A character that means nothing is a letter. -/
theorem readFrom_letter {s : State} (h : s.flags.verbose = false) {c : Char}
    (hc : isSyntax c = false) (place : Nat) (rest : List Char) :
    readFrom s place 0 (c :: rest) =
      readFrom (s.pushLetter c place (place + 1)) (place + 1) 0 rest := by
  have hne : ∀ d ∈ ['\\', '(', ')', '|', '[', '.', '^', '$', '?', '*', '+', '\x7b'], c ≠ d := by
    rintro d hd rfl
    revert hc
    simp only [List.mem_cons, List.not_mem_nil, or_false] at hd
    rcases hd with rfl | rfl | rfl | rfl | rfl | rfl | rfl | rfl | rfl | rfl | rfl | rfl <;> decide
  simp only [List.mem_cons, List.not_mem_nil, or_false, forall_eq_or_imp, forall_eq] at hne
  have hnone : signTimes.lookup c = none ∧ State.signConditions.lookup c = none := by
    simp [signTimes, State.signConditions, List.lookup_eq_none_iff, hne]
  simp [readFrom, State.step, h, hne, hnone]

/-- What a text says, nothing being nested too deep. -/
def Tree.read (text : String) : Except SyntaxFault Tree :=
  match readFrom .start 0 0 text.toList with
  | .ok t => t.shallow
  | .error e => .error e

/-- The innermost open group is the one that is reported. -/
example : (Tree.read "((a)").toOption.isNone = true ∧
    readFrom .start 0 0 "((a".toList = .error ⟨.unclosedGroup, ⟨1, 2⟩, none⟩ := ⟨rfl, rfl⟩

end KeywordGrammar.Pattern
