/-
# The room that automata take

An automaton is a number of states, of which some have several ways on.  What is left of the bytes that
it may take is spent state by state, so that one that would take too many is never built.

A set of characters takes states for the bytes of UTF-8.  Characters whose first bytes, or whose last
ones when the automaton reads backwards, are alike share states: a state that is needed again is found
in a table, unless another one has taken its place there.
-/
import KeywordGrammar.Unicode.ByteSpans
import Std.Data.TreeMap

namespace KeywordGrammar.Pattern

open Unicode

/-! ## 1. Spending bytes -/

/-- Bytes of a state with one way on. -/
def stateBytes : Nat := 32

/-- Bytes of each way on from a state that reads one of several bytes. -/
def transitionBytes : Nat := 8

/-- Bytes of each way on from a state that reads nothing. -/
def branchBytes : Nat := 4

/-- What an automaton has taken and what it may still take. -/
structure Room where
  states : Nat
  bytesLeft : Nat
  deriving DecidableEq, Repr

namespace Room

/-- With some bytes spent, if there are so many. -/
def spend? (r : Room) (bytes : Nat) : Option Room :=
  if bytes ≤ r.bytesLeft then some ⟨r.states, r.bytesLeft - bytes⟩ else none

/-- With one more state, which takes some bytes besides those of every state. -/
def add? (r : Room) (bytes : Nat) : Option Room :=
  (r.spend? (stateBytes + bytes)).map (fun r => ⟨r.states + 1, r.bytesLeft⟩)

/-- With some more states of one way on each. -/
def addRow? (r : Room) (length : Nat) : Option Room :=
  (r.spend? (length * stateBytes)).map (fun r => ⟨r.states + length, r.bytesLeft⟩)

/-- With one more state, from which two ways lead on that read nothing. -/
def addFork? (r : Room) : Option Room := r.add? (2 * branchBytes)

end Room

/-! ## 2. Tables of states -/

/-- The place of a key in a table with some places, by multiplying and mixing in its numbers in turn. -/
def tablePlace (places : Nat) (key : List Nat) : Nat :=
  (key.foldl (fun (h : UInt64) n => (h ^^^ UInt64.ofNat n) * 1099511628211)
    14695981039346656037).toNat % places

/-- Places of the table for a set that is read forwards. -/
def forwardPlaces : Nat := 10000

/-- Places of the table for a set that is read backwards. -/
def backwardPlaces : Nat := 1000

/-- A table of states by what they were made from; each place has room for one. -/
structure StateTable where
  places : Nat
  found : Std.TreeMap Nat (List Nat × Nat)

namespace StateTable

/-- The table without states. -/
def empty (places : Nat) : StateTable := ⟨places, {}⟩

/-- The state that was made from a key; if it is not in the table a new one is added, which takes some
bytes besides those of every state. -/
def state? (t : StateTable) (r : Room) (key : List Nat) (bytes : Nat) :
    Option (Nat × StateTable × Room) :=
  let place := tablePlace t.places key
  match t.found[place]? with
  | some (key', state) =>
    if key = key' then some (state, t, r)
    else (r.add? bytes).map (fun r' =>
      (r.states, { t with found := t.found.insert place (key, r.states) }, r'))
  | none =>
    (r.add? bytes).map (fun r' =>
      (r.states, { t with found := t.found.insert place (key, r.states) }, r'))

end StateTable

/-! ## 3. Sets read forwards -/

/-- A state that is being made: its ways on so far, the last of which stands first, and the bytes whose
way on is not known yet. -/
structure OpenState where
  moves : List (Nat × Nat × Nat)
  pending : Nat × Nat
  deriving DecidableEq, Repr

/-- Closes states, each of which leads to the next and the last one to `goal`. -/
def closeStates? (goal : Nat) : List OpenState → StateTable → Room → Option (Nat × StateTable × Room)
  | [], t, r => some (goal, t, r)
  | s :: deeper, t, r =>
    match closeStates? goal deeper t r with
    | none => none
    | some (next, t, r) =>
      let moves := ((s.pending.1, s.pending.2, next) :: s.moves).reverse
      t.state? r (moves.flatMap (fun m => [m.1, m.2.1, m.2.2])) (moves.length * transitionBytes)

/-- Opens states for a sequence, of which those that it shares with the one before are open already; the
others of that are closed. -/
def openStates? (goal : Nat) : List OpenState → ByteSpans → StateTable → Room →
    Option (List OpenState × StateTable × Room)
  | s :: deeper, span :: rest, t, r =>
    if s.pending = span then
      (openStates? goal deeper rest t r).map (fun (states, t, r) => (s :: states, t, r))
    else
      (closeStates? goal deeper t r).map (fun (next, t, r) =>
        (⟨(s.pending.1, s.pending.2, next) :: s.moves, span⟩ :: rest.map (⟨[], ·⟩), t, r))
  | _, spans, t, r => some (spans.map (⟨[], ·⟩), t, r)

/-- Adds states for sequences in the order of their characters, some states being open. -/
def addForwards? (goal : Nat) (states : List OpenState) (t : StateTable) (r : Room) :
    List ByteSpans → Option Room
  | [] => (closeStates? goal states t r).map (fun (_, _, r) => r)
  | spans :: rest =>
    match openStates? goal states spans t r with
    | none => none
    | some (states, t, r) => addForwards? goal states t r rest

/-! ## 4. Sets read backwards -/

/-- Adds states for one sequence, the first byte of which leads to `goal`. -/
def addSequence? (goal : Nat) (t : StateTable) (r : Room) : ByteSpans → Option (StateTable × Room)
  | [] => (r.spend? branchBytes).map (fun r => (t, r))
  | (lo, hi) :: rest =>
    match t.state? r [goal, lo, hi] 0 with
    | none => none
    | some (state, t, r) => addSequence? state t r rest

/-- Adds states for sequences. -/
def addBackwards? (goal : Nat) (t : StateTable) (r : Room) : List ByteSpans → Option Room
  | [] => some r
  | spans :: rest =>
    match addSequence? goal t r spans with
    | none => none
    | some (t, r) => addBackwards? goal t r rest

/-! ## 5. Both directions -/

/-- The direction in which an automaton reads. -/
inductive Direction where
  | forwards
  | backwards
  deriving DecidableEq, Repr

/-- Adds the states for one character of a set. -/
def Room.addSet? (d : Direction) (s : Spans) (r : Room) : Option Room :=
  if s.isAscii then (r.add? 0).bind (·.add? (s.length * transitionBytes))
  else
    match d with
    | .forwards =>
      (r.add? 0).bind (fun r' =>
        addForwards? r.states [] (.empty forwardPlaces) r' (s.flatMap byteSpans))
    | .backwards =>
      ((r.add? 0).bind (·.add? 0)).bind (fun r' =>
        addBackwards? (r.states + 1) (.empty backwardPlaces) r' (s.flatMap byteSpans))

/-- The bytes that one character of a set takes, if they are no more than `limit`. -/
def setBytes? (limit : Nat) (d : Direction) (s : Spans) : Option Nat :=
  ((⟨0, limit⟩ : Room).addSet? d s).map (fun r => limit - r.bytesLeft)

/-- The last bytes of é and É differ and the first ones do not; a third form of `k` has three bytes. -/
example : setBytes? 1000 .forwards [(0xC9, 0xC9), (0xE9, 0xE9)] = some 120 ∧
    setBytes? 1000 .backwards [(0xC9, 0xC9), (0xE9, 0xE9)] = some 168 ∧
    setBytes? 1000 .forwards [(0x4B, 0x4B), (0x6B, 0x6B), (0x212A, 0x212A)] = some 168 ∧
    setBytes? 1000 .backwards [(0x4B, 0x4B), (0x6B, 0x6B), (0x212A, 0x212A)] = some 236 := by
  decide +kernel

end KeywordGrammar.Pattern
