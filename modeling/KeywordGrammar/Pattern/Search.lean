/-
# Finding matches

A pattern leads from a place to a list of places, the preferred ones first: alternatives in their
order, counts from the most characters down.  A match is the first way through the whole pattern, and
the search goes on behind it; an empty match right behind another match is passed over.

All ways through a pattern are never listed when a search runs: section 2 follows them one at a time
and leaves off at the first that serves, and `firstWay_eq` says that it is the first of the list.
-/
import KeywordGrammar.Pattern.Place

namespace KeywordGrammar

/-- Whether the condition holds at a place. -/
def Anchor.holds : Anchor → Place → Bool
  | .textStart, p => p.before.isEmpty
  | .textEnd, p => p.after.isEmpty
  | .wordBoundary, p => p.isBoundary

/-! ## 1. Ways through a pattern -/

/-- What a numbered group took, from place to place. -/
structure Capture where
  index : Nat
  start : Place
  stop : Place
  deriving DecidableEq, Repr

/-- How far a way through a pattern has come; the last capture stands first. -/
structure Way where
  place : Place
  captures : List Capture
  deriving DecidableEq, Repr

namespace Pattern

/-- All ways through a pattern, the preferred ones first. -/
def ways : Pattern → Way → List Way
  | literal caseless text, w =>
    ((w.place.skip? caseless text).map (fun p => { w with place := p })).toList
  | run set count, w => (w.place.reach set count).map (fun p => { w with place := p })
  | anchor a, w => if a.holds w.place then [w] else []
  | seq p q, w => (p.ways w).flatMap q.ways
  | either p q, w => p.ways w ++ q.ways w
  | group index p, w =>
    (p.ways w).map (fun v => { v with captures := ⟨index, w.place, v.place⟩ :: v.captures })
  | foreign, _ => []

/-! ## 2. The first way -/

/-- The answer at the end of the first way for which there is one. -/
def firstWay {α : Type} : Pattern → Way → (Way → Option α) → Option α
  | literal caseless text, w, answer =>
    (w.place.skip? caseless text).bind (fun p => answer { w with place := p })
  | run set count, w, answer =>
    (w.place.reach set count).findSome? (fun p => answer { w with place := p })
  | anchor a, w, answer => if a.holds w.place then answer w else none
  | seq p q, w, answer => p.firstWay w (fun v => q.firstWay v answer)
  | either p q, w, answer =>
    match p.firstWay w answer with
    | some r => some r
    | none => q.firstWay w answer
  | group index p, w, answer =>
    p.firstWay w (fun v =>
      answer { v with captures := ⟨index, w.place, v.place⟩ :: v.captures })
  | foreign, _, _ => none

theorem findSome?_flatMap {α β γ : Type} (f : α → List β) (answer : β → Option γ) :
    ∀ l : List α, (l.flatMap f).findSome? answer = l.findSome? (fun a => (f a).findSome? answer)
  | [] => rfl
  | a :: l => by
    simp only [List.flatMap_cons, List.findSome?_append, findSome?_flatMap f answer l,
      List.findSome?_cons]
    cases (f a).findSome? answer <;> rfl

/-- It is the first of all ways in their order of preference. -/
theorem firstWay_eq {α : Type} : ∀ (p : Pattern) (w : Way) (answer : Way → Option α),
    p.firstWay w answer = (p.ways w).findSome? answer
  | literal caseless text, w, answer => by
    cases h : w.place.skip? caseless text <;> simp [firstWay, ways, h]
  | run set count, w, answer => by
    simp only [firstWay, ways, List.findSome?_map]
    rfl
  | anchor a, w, answer => by
    by_cases h : a.holds w.place = true <;> simp [firstWay, ways, h]
  | seq p q, w, answer => by
    simp only [firstWay, ways, firstWay_eq p, firstWay_eq q, findSome?_flatMap]
  | either p q, w, answer => by
    simp only [firstWay, ways, firstWay_eq p, firstWay_eq q, List.findSome?_append]
    cases (p.ways w).findSome? answer <;> rfl
  | group index p, w, answer => by
    simp only [firstWay, ways, firstWay_eq p, List.findSome?_map]
    rfl
  | foreign, w, answer => rfl

/-! ## 3. Matches -/

/-- What a pattern matched, with the groups that took part; the last capture stands first. -/
structure Match where
  start : Place
  stop : Place
  captures : List Capture
  deriving DecidableEq, Repr

/-- The match that begins at a place, if one does. -/
def matchAt? (p : Pattern) (place : Place) : Option Match :=
  p.firstWay ⟨place, []⟩ (fun w => some ⟨place, w.place, w.captures⟩)

/-- No match begins where no way leads on. -/
theorem matchAt?_eq_none_iff {p : Pattern} {place : Place} :
    p.matchAt? place = none ↔ p.ways ⟨place, []⟩ = [] := by
  rw [matchAt?, firstWay_eq]
  cases p.ways ⟨place, []⟩ <;> simp

/-- The matches that begin at some of the places, which come in their order in the text; `ended` is
where the last match ended that took something.  None begins before that place, and no empty one
there. -/
def matchesAlong (p : Pattern) (ended : Option Nat) : List Place → List Match
  | [] => []
  | here :: later =>
    if ended.any (here.offset < ·) then matchesAlong p ended later
    else
      match p.matchAt? here with
      | none => matchesAlong p ended later
      | some m =>
        if here.offset < m.stop.offset then m :: matchesAlong p (some m.stop.offset) later
        else if ended == some here.offset then matchesAlong p ended later
        else m :: matchesAlong p ended later

/-- The successive matches in a text. -/
def allMatches (p : Pattern) (text : String) : List Match :=
  p.matchesAlong none (Place.start text).onwards

/-- Where a group of a match begins and ends, in bytes; group 0 is the whole match. -/
def Match.span? (m : Match) (index : Nat) : Option (Nat × Nat) :=
  if index = 0 then some (m.start.offset, m.stop.offset)
  else
    (m.captures.find? (fun c => c.index == index)).map (fun c => (c.start.offset, c.stop.offset))

end Pattern

end KeywordGrammar
