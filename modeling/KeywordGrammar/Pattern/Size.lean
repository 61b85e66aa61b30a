/-
# The size of compiled patterns

A pattern is compiled into two automata, of which one reads a text forwards and the other backwards,
and a pattern is refused if either takes too many bytes.  What is read backwards is the mirror image of
the pattern.
-/
import KeywordGrammar.Pattern.Shape
import KeywordGrammar.Pattern.Words

namespace KeywordGrammar.Pattern

/-! ## 1. Mirror images -/

namespace Shape

mutual

/-- The shape with its parts in the opposite order; letters stay as they are. -/
def mirror : Shape → Shape
  | repetition times isGreedy body => repetition times isGreedy body.mirror
  | group index body => group index body.mirror
  | seq parts => seq (mirrorOnto [] parts)
  | either branches => either (mirrorOnto [] branches).reverse
  | p => p

/-- The mirror images of some shapes in the opposite order, in front of those that are `found`. -/
def mirrorOnto (found : List Shape) : List Shape → List Shape
  | [] => found
  | p :: rest => mirrorOnto (p.mirror :: found) rest

end

/-- The text of a shape that is nothing else. -/
def text? : Shape → Option (List Char)
  | literal text => some text
  | _ => none

end Shape

/-! ## 2. States -/

/-- Does something so many times. -/
def times? (add : Room → Option Room) : Nat → Room → Option Room
  | 0, r => some r
  | n + 1, r =>
    match add r with
    | none => none
    | some r => times? add n r

/-- Does something at least once, or adds a state in its place. -/
def copies? (add : Room → Option Room) (n : Nat) (r : Room) : Option Room :=
  if n = 0 then r.add? 0 else times? add n r

/-- Adds what can be left out, and the fork that leads past it. -/
def optional? (add : Room → Option Room) (r : Room) : Option Room := r.addFork?.bind add

/-- Adds the states for something that is repeated; `takesText` if it is known to take some. -/
def repeat? (add : Room → Option Room) (takesText : Bool) (times : Times) (r : Room) : Option Room :=
  match times.least, times.most with
  | 0, some 1 => (optional? add r).bind (·.add? 0)
  | least, some most =>
    if least = most then copies? add least r
    else ((copies? add least r).bind (·.add? 0)).bind (times? (optional? add) (most - least))
  | 0, none =>
    if takesText then optional? add r
    else (((add r).bind Room.addFork?).bind Room.addFork?).bind (·.add? 0)
  | least + 1, none => (times? add (least + 1) r).bind Room.addFork?

mutual

/-- Adds the states for a shape. -/
def Shape.add? (d : Direction) : Shape → Room → Option Room
  | .empty, r => r.add? 0
  | .literal text, r => r.addRow? (text.foldl (fun n c => n + c.utf8Size) 0)
  | .set s _, r => r.addSet? d s
  | .look _, r => r.add? 0
  | .repetition times _ body, r =>
    repeat? (fun r => body.add? d r) (body.minLength?.any (0 < ·)) times r
  | .group _ body, r =>
    if d = .forwards then ((r.add? 0).bind (fun r => body.add? d r)).bind (·.add? 0)
    else body.add? d r
  | .seq parts, r => Shape.addAll? d parts r
  | .either branches, r =>
    match branches.mapM Shape.text? with
    | some words => r.addWords? d words
    | none => Shape.addBranches? d 0 branches r

/-- Adds the states for one shape behind the other. -/
def Shape.addAll? (d : Direction) : List Shape → Room → Option Room
  | [], r => some r
  | p :: rest, r =>
    match p.add? d r with
    | none => none
    | some r => Shape.addAll? d rest r

/-- Adds the states for branches, of which there have been some; the states that lead to all of them and
away from them are added behind the second. -/
def Shape.addBranches? (d : Direction) (count : Nat) : List Shape → Room → Option Room
  | [], r => some r
  | p :: rest, r =>
    match (p.add? d r).bind (·.spend? branchBytes) with
    | none => none
    | some r =>
      match if count = 1 then (r.add? 0).bind (·.add? 0) else some r with
      | none => none
      | some r => Shape.addBranches? d (count + 1) rest r

end

/-! ## 3. Whole automata -/

namespace Shape

/-- Adds the states that pass over what stands in front of a match; there is nothing in front if every
match has to be at one end of the text. -/
def addFront? (d : Direction) (p : Shape) (r : Room) : Option Room :=
  if (if d = .forwards then p.startsAtText else p.endsAtText) then r.add? 0
  else (r.addFork?.bind (·.add? 0)).bind (·.add? transitionBytes)

/-- Whether the automaton for a direction takes no more bytes than `limit`.  Forwards the match as a
whole is a group; a match has a state of its own behind it. -/
def fitsIn (limit : Nat) (d : Direction) (p : Shape) : Bool :=
  let whole := match d with
    | .forwards => group 0 p
    | .backwards => p.mirror
  (((p.addFront? d ⟨0, limit⟩).bind (whole.add? d)).bind (·.add? 0)).isSome

/-- How many plain texts are searched for in a way of their own, which needs no automaton. -/
def manyWords : Nat := 3000

/-- Whether the shape is no more than that many plain texts. -/
def isWordList : Shape → Bool
  | either branches => decide (manyWords ≤ branches.length) && branches.all (fun p => p.text?.isSome)
  | _ => false

/-- Whether a pattern of this shape can be compiled with automata that take no more bytes than `limit`
each. -/
def fits (limit : Nat) (p : Shape) : Bool :=
  p.isWordList || (p.fitsIn limit .forwards && p.fitsIn limit .backwards)

/-- What is repeated without a bound takes the room of one, and a group takes two states forwards. -/
example : (repetition ⟨0, none⟩ true (literal ['a'])).fitsIn 280 .forwards = true ∧
    (repetition ⟨0, none⟩ true (literal ['a'])).fitsIn 279 .forwards = false ∧
    (group 1 (literal ['a'])).fitsIn 304 .forwards = true ∧
    (group 1 (literal ['a'])).fitsIn 303 .forwards = false ∧
    (group 1 (literal ['a'])).fitsIn 176 .backwards = true := by decide +kernel

end Shape

end KeywordGrammar.Pattern
