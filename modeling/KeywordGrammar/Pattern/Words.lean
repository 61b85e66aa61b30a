/-
# Branches that are plain texts

When all branches are plain texts an automaton has the form of a tree: texts that begin alike share
states.  Branches keep their order, so where a text ends the ways on that come later are kept apart
from those before.
-/
import KeywordGrammar.Pattern.Room

namespace KeywordGrammar.Pattern

/-! ## 1. The tree -/

/-- A place in the tree. -/
structure Junction where
  /-- How many ways on there were each time that a text ended here, since the time before. -/
  closed : List Nat
  /-- The ways on since a text ended here: the byte and the number of the junction it leads to. -/
  moves : List (UInt8 × Nat)
  deriving DecidableEq, Repr

namespace Junction

/-- The junction without ways on. -/
def empty : Junction := ⟨[], []⟩

/-- Whether there is no way on. -/
def isLast (j : Junction) : Bool := j.moves.isEmpty && j.closed.all (· == 0)

/-- The junction where one more text ends; for one that is last already that makes no difference. -/
def finish (j : Junction) : Junction :=
  if j.isLast && !j.closed.isEmpty then j else ⟨j.moves.length :: j.closed, []⟩

end Junction

/-- Junctions by number; the first one is number zero. -/
abbrev WordTree := Array Junction

namespace WordTree

/-- The tree without texts. -/
def empty : WordTree := #[.empty]

/-- The tree with a way for some bytes from junction `n` on. -/
def insertFrom (t : WordTree) (n : Nat) : List UInt8 → WordTree
  | [] => t.modify n Junction.finish
  | b :: rest =>
    match (t.getD n .empty).moves.lookup b with
    | some m => insertFrom t m rest
    | none =>
      let m := t.size
      insertFrom ((t.modify n (fun j => ⟨j.closed, (b, m) :: j.moves⟩)).push .empty) m rest

/-- The tree of some texts. -/
def ofWords (words : List (List UInt8)) : WordTree := words.foldl (insertFrom · 0) empty

end WordTree

/-! ## 2. Its room -/

/-- Adds the states for a junction: one for each lot of ways on, and one from which they are tried in
turn. -/
def Junction.add? (j : Junction) (r : Room) : Option Room :=
  let lots := (j.moves.length :: j.closed).filter (· != 0)
  let addLot (room : Option Room) (n : Nat) : Option Room :=
    room.bind (·.add? (if n = 1 then 0 else n * transitionBytes))
  (lots.foldl addLot (some r)).bind (·.add? ((lots.length + j.closed.length) * branchBytes))

/-- Adds the states for some junctions; where there is no way on none is needed. -/
def addJunctions? : List Junction → Room → Option Room
  | [], r => some r
  | j :: rest, r =>
    if j.isLast then addJunctions? rest r
    else
      match j.add? r with
      | none => none
      | some r => addJunctions? rest r

/-- Adds the states for plain texts. -/
def Room.addWords? (d : Direction) (words : List (List Char)) (r : Room) : Option Room :=
  let bytes := words.map (fun w => w.flatMap String.utf8EncodeChar)
  let inOrder := if d = .forwards then bytes else bytes.map List.reverse
  (r.add? 0).bind (addJunctions? (WordTree.ofWords inOrder).toList)

/-- Two texts that begin alike share a state, and where the first one ends there are two lots of ways
on. -/
example : (WordTree.ofWords [[1, 2], [1], [1, 3]]).toList =
      [⟨[], [(1, 1)]⟩, ⟨[1], [(3, 3)]⟩, ⟨[0], []⟩, ⟨[0], []⟩] ∧
    ((⟨0, 1000⟩ : Room).addWords? .forwards ["12".toList, "1".toList, "13".toList]).map Room.states =
      some 6 := by decide +kernel

end KeywordGrammar.Pattern
