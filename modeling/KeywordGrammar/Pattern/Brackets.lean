/-
# Sets in brackets

A set of characters can be written out in brackets: its members, ranges of them, further sets in
brackets, and operations between all these.  What is read is kept as a tree that knows where each of
its parts is written, since a part may turn out to be at fault later.

The reader remembers which brackets are open.  If the pattern ends too early the innermost one is at
fault, and the stretch from the bracket to the first member is shown.
-/
import KeywordGrammar.Pattern.Escape

namespace KeywordGrammar.Pattern

/-! ## 1. The type -/

/-- The sets that have a name of their own inside brackets. -/
inductive AsciiSet where
  | alnum
  | alpha
  | ascii
  | blank
  | cntrl
  | digit
  | graph
  | lower
  | print
  | punct
  | space
  | upper
  | word
  | xdigit
  deriving DecidableEq, Repr

/-- What is done with the sets on both sides of an operation. -/
inductive SetOperation where
  | inter
  | diff
  | symmDiff
  deriving DecidableEq, Repr

/-- A character that is written in brackets. -/
structure SetLetter where
  char : Char
  /-- Whether it is written as the number of a byte. -/
  isByte : Bool
  stretch : Stretch
  deriving DecidableEq, Repr

/-- A set as it is written. -/
inductive SetTree where
  /-- Nothing, where something could stand. -/
  | empty (place : Nat)
  | letter (l : SetLetter)
  | range (first last : SetLetter)
  | ascii (isNegated : Bool) (s : AsciiSet) (stretch : Stretch)
  | named (isNegated : Bool) (s : NamedSet) (stretch : Stretch)
  | brackets (isNegated : Bool) (body : SetTree) (stretch : Stretch)
  | union (members : List SetTree) (stretch : Stretch)
  | operation (op : SetOperation) (left right : SetTree) (stretch : Stretch)

namespace SetTree

/-- Where a set is written. -/
def stretch : SetTree → Stretch
  | empty place => ⟨place, place⟩
  | letter l => l.stretch
  | range first last => ⟨first.stretch.start, last.stretch.stop⟩
  | ascii _ _ s => s
  | named _ _ s => s
  | brackets _ _ s => s
  | union _ s => s
  | operation _ _ _ s => s

/-- The members from a place on, the last of which stands first, as one set. -/
def ofMembers (place : Nat) : List SetTree → SetTree
  | [] => empty place
  | [t] => t
  | last :: others =>
    let members := (last :: others).reverse
    union members ⟨((members.head?.map stretch).getD last.stretch).start, last.stretch.stop⟩

end SetTree

/-! ## 2. Opening brackets -/

/-- Brackets that are open. -/
structure OpenBrackets where
  /-- From the bracket to the first member. -/
  front : Stretch
  isNegated : Bool
  /-- The operation in front of the members, with what stands before it. -/
  pending : Option (SetOperation × SetTree)
  /-- Where the members start. -/
  place : Nat
  /-- The members since then, the last one first. -/
  members : List SetTree

namespace OpenBrackets

/-- Behind one more member. -/
def push (b : OpenBrackets) (member : SetTree) : OpenBrackets :=
  { b with members := member :: b.members }

/-- What has been read in the brackets. -/
def body (b : OpenBrackets) : SetTree :=
  let members := SetTree.ofMembers b.place b.members
  match b.pending with
  | some (op, left) => .operation op left members ⟨left.stretch.start, members.stretch.stop⟩
  | none => members

/-- Behind the mark of an operation, which ends at a place. -/
def operate (b : OpenBrackets) (op : SetOperation) (place : Nat) : OpenBrackets :=
  { b with pending := some (op, b.body), place, members := [] }

/-- The set, when its closing bracket has been read, which ends at a place. -/
def close (b : OpenBrackets) (place : Nat) : SetTree :=
  .brackets b.isNegated b.body ⟨b.front.start, place⟩

end OpenBrackets

/-- Reads the dashes here and the gaps that follow them, the last one first, behind those that have been
read. -/
def dashesOnto (verbose : Bool) (read : List SetTree) (c : Cursor) : List SetTree × Cursor :=
  match _ : c.rest with
  | [] => (read, c)
  | d :: _ =>
    if d = '-' then
      dashesOnto verbose (.letter ⟨'-', false, ⟨c.place, c.place + 1⟩⟩ :: read) (c.next verbose)
    else (read, c)
termination_by c.rest.length
decreasing_by exact Cursor.length_next_lt ‹_›

/-- Reads an opening bracket, a caret that negates the set, and those members that could not stand
elsewhere: dashes, or a closing bracket. -/
def openBracket (verbose : Bool) (c : Cursor) : Except SyntaxFault (OpenBrackets × Cursor) :=
  let inside := c.next verbose
  let isNegated := inside.rest.head? == some '^'
  let front := if isNegated then inside.next verbose else inside
  let (dashes, members) := dashesOnto verbose [] front
  let opened : OpenBrackets := ⟨⟨c.place, members.place⟩, isNegated, none, front.place, dashes⟩
  match members.rest with
  | [] => faultIn .unclosedClass c.place (if opened.members.isEmpty then members.place else c.place)
  | ']' :: _ =>
    if !opened.members.isEmpty then .ok (opened, members)
    else
      let behind := members.next verbose
      let bracket := SetTree.letter ⟨']', false, ⟨members.place, members.place + 1⟩⟩
      if behind.rest.isEmpty then faultIn .unclosedClass c.place behind.place
      else .ok ({ opened with front := ⟨c.place, behind.place⟩, members := [bracket] }, behind)
  | _ => .ok (opened, members)

/-! ## 3. Members -/

/-- The names of the sets that have one of their own. -/
def asciiSets : List (String × AsciiSet) := [
  ("alnum", .alnum), ("alpha", .alpha), ("ascii", .ascii), ("blank", .blank), ("cntrl", .cntrl),
  ("digit", .digit), ("graph", .graph), ("lower", .lower), ("print", .print), ("punct", .punct),
  ("space", .space), ("upper", .upper), ("word", .word), ("xdigit", .xdigit)]

/-- Reads a named set such as `[:alpha:]`, if one stands here. -/
def readAsciiSet? (c : Cursor) : Option (SetTree × Cursor) := do
  let inside ← c.skipText? "[:"
  let negated := inside.skipText? "^"
  let inside := negated.getD inside
  let name := inside.rest.takeWhile (· != ':')
  let behind ← (inside.skip name.length).skipText? ":]"
  let s ← asciiSets.lookup (String.ofList name)
  return (.ascii negated.isSome s ⟨c.place, behind.place⟩, behind)

/-- A member with the stretch where it is written. -/
structure Member where
  value : Escape
  stretch : Stretch
  deriving DecidableEq, Repr

namespace Member

/-- Reads a member that starts with `d`. -/
def read (verbose : Bool) (place : Nat) (d : Char) (rest : List Char) :
    Except SyntaxFault (Member × Cursor) :=
  if d = '\\' then (readEscape verbose place rest).map (fun e => (⟨e.1, ⟨place, e.2.place⟩⟩, e.2))
  else .ok (⟨.letter d false, ⟨place, place + 1⟩⟩, ⟨place + 1, rest⟩)

/-- The member as a set; a condition on a place is none. -/
def tree (m : Member) : Except SyntaxFault SetTree :=
  match m.value with
  | .letter c isByte => .ok (.letter ⟨c, isByte, m.stretch⟩)
  | .set isNegated s => .ok (.named isNegated s m.stretch)
  | .condition _ => faultIn .classEscape m.stretch.start m.stretch.stop

/-- The character that a range starts or ends with. -/
def bound (m : Member) : Except SyntaxFault SetLetter :=
  match m.value with
  | .letter c isByte => .ok ⟨c, isByte, m.stretch⟩
  | _ => faultIn .classRangeEnd m.stretch.start m.stretch.stop

end Member

/-- The fault of a pattern that ends in brackets. -/
def unclosedBracket {α : Type} (opened : OpenBrackets) : Except SyntaxFault α :=
  faultIn .unclosedClass opened.front.start opened.front.stop

/-- Reads a member that starts with `d`, or a range of them. -/
def readRange (verbose : Bool) (opened : OpenBrackets) (place : Nat) (d : Char)
    (rest : List Char) : Except SyntaxFault (SetTree × Cursor) := do
  let (first, behind) ← Member.read verbose place d rest
  let behind := behind.skipGap verbose
  if behind.rest.isEmpty then unclosedBracket opened
  else if behind.rest.head? != some '-' then return (← first.tree, behind)
  else
    let second := behind.next verbose
    match second.rest with
    | [] => unclosedBracket opened
    | e :: others =>
      if e = ']' ∨ e = '-' then return (← first.tree, behind)
      else
        let (last, close) ← Member.read verbose second.place e others
        let lo ← first.bound
        let hi ← last.bound
        if lo.char ≤ hi.char then return (.range lo hi, close)
        else faultIn .classRangeOrder first.stretch.start last.stretch.stop

/-! ## 4. Whole sets -/

/-- How reading goes on inside brackets. -/
inductive Bracketed where
  /-- Some brackets are open, the innermost ones first. -/
  | open (innermost : OpenBrackets) (others : List OpenBrackets)
  /-- The set is complete. -/
  | closed (s : SetTree)

/-- The operations by the character that is doubled to write them. -/
def setOperations : List (Char × SetOperation) := [('&', .inter), ('-', .diff), ('~', .symmDiff)]

/-- Reads what stands in front of the text, in brackets: a named set, an opening or a closing bracket,
an operation, or a member. -/
def readPart (verbose : Bool) (opened : OpenBrackets) (others : List OpenBrackets) (c : Cursor) :
    Except SyntaxFault (Bracketed × Cursor) :=
  let c := c.skipGap verbose
  match c.rest with
  | [] => unclosedBracket opened
  | d :: rest =>
    if d = '[' then
      match readAsciiSet? c with
      | some (s, behind) => .ok (.open (opened.push s) others, behind)
      | none => (openBracket verbose c).map (fun o => (.open o.1 (opened :: others), o.2))
    else if d = ']' then
      let s := opened.close (c.place + 1)
      match others with
      | [] => .ok (.closed s, c.skip 1)
      | outer :: more => .ok (.open (outer.push s) more, c.skip 1)
    else
      match setOperations.lookup d, rest.head? == some d with
      | some op, true => .ok (.open (opened.operate op (c.place + 2)) others, c.skip 2)
      | _, _ =>
        (readRange verbose opened c.place d rest).map (fun m =>
          (.open (opened.push m.1) others, m.2))

/-- Reads on until no bracket is open, after passing over `skip` characters that have been read. -/
def bracketsFrom (verbose : Bool) (opened : OpenBrackets) (others : List OpenBrackets)
    (place skip : Nat) : List Char → Except SyntaxFault (SetTree × Cursor)
  | [] => unclosedBracket opened
  | c :: rest =>
    match skip with
    | n + 1 => bracketsFrom verbose opened others (place + 1) n rest
    | 0 =>
      match readPart verbose opened others ⟨place, c :: rest⟩ with
      | .error e => .error e
      | .ok (.closed s, behind) => .ok (s, behind)
      | .ok (.open inner outer, behind) =>
        bracketsFrom verbose inner outer (place + 1) (behind.place - (place + 1)) rest

/-- Reads a set whose opening bracket is here. -/
def readBrackets (verbose : Bool) (c : Cursor) : Except SyntaxFault (SetTree × Cursor) := do
  let (opened, behind) ← openBracket verbose c
  bracketsFrom verbose opened [] behind.place 0 behind.rest

/-- A closing bracket in front is a member. -/
example : (readBrackets false ⟨0, "[^]a-z]b".toList⟩).toOption.map Prod.snd = some ⟨7, ['b']⟩ := by
  cbv

/-- The innermost open bracket is the one at fault. -/
example : (readBrackets false ⟨0, "[a[^b".toList⟩).toOption.isNone = true := by cbv

end KeywordGrammar.Pattern
