/-
# Places in a text

A place is held as what stands before it and what stands after it, so anchors see the whole text and
nothing has to be counted to look around.  How many bytes stand before it is kept beside that, since
matches are reported in bytes.
-/
import KeywordGrammar.Pattern

namespace KeywordGrammar

open Unicode

/-! ## 1. The type -/

/-- Bytes that characters take in UTF-8. -/
def byteLength : List Char → Nat
  | [] => 0
  | c :: rest => c.utf8Size + byteLength rest

/-- A place in a text; `before` is what stands before it, nearest first. -/
structure Place where
  before : List Char
  after : List Char
  /-- Bytes before the place. -/
  offset : Nat
  offset_eq : offset = byteLength before
  deriving DecidableEq, Repr

namespace Place

/-- The front of a text. -/
def start (text : String) : Place := ⟨[], text.toList, 0, rfl⟩

/-- The whole text. -/
def text (p : Place) : List Char := p.before.reverse ++ p.after

/-- Places are the same if what surrounds them is the same. -/
theorem ext' {p q : Place} (hb : p.before = q.before) (ha : p.after = q.after) : p = q := by
  obtain ⟨b, a, o, h⟩ := p
  obtain ⟨b', a', o', h'⟩ := q
  simp only at hb ha
  subst hb ha h h'
  rfl

/-- Whether a word character stands on exactly one side. -/
def isBoundary (p : Place) : Bool := p.before.head?.any isWord != p.after.head?.any isWord

/-! ## 2. Going on -/

/-- The place behind `c`, which stands here in front of `rest`. -/
def pass (p : Place) (c : Char) (rest : List Char) : Place :=
  ⟨c :: p.before, rest, c.utf8Size + p.offset, by rw [p.offset_eq, byteLength]⟩

/-- The place behind `letters`, if they stand here, up to case if `caseless`. -/
def skip? (caseless : Bool) : List Char → Place → Option Place
  | [], p => some p
  | l :: letters, p =>
    match p.after with
    | c :: rest => if sameChar caseless l c then skip? caseless letters (p.pass c rest) else none
    | [] => none

/-- The place behind one character of the set, if one stands here. -/
def next? (set : CharSet) (p : Place) : Option Place :=
  match p.after with
  | c :: rest => if set.contains c then some (p.pass c rest) else none
  | [] => none

/-- The places from `p`, in front of `text`, to the last one that is reached by characters of the set,
the farthest first, in front of `found`. -/
def stops (set : CharSet) (p : Place) : List Char → List Place → List Place
  | [], found => p :: found
  | c :: rest, found =>
    if set.contains c then stops set (p.pass c rest) rest (p :: found) else p :: found

/-- The places behind characters of the set, as many as the count allows and the most first. -/
def reach (set : CharSet) (count : Count) (p : Place) : List Place :=
  match count with
  | .one => (p.next? set).toList
  | .atMostOne => (p.next? set).toList ++ [p]
  | .any => p.stops set p.after []
  | .atLeastOne =>
    match p.next? set with
    | some q => q.stops set q.after []
    | none => []

/-! ## 3. All places -/

/-- The places from `p`, in front of `text`, to the end, the last one first, in front of `found`. -/
def onwardsOnto (found : List Place) (p : Place) : List Char → List Place
  | [] => p :: found
  | c :: rest => onwardsOnto (p :: found) (p.pass c rest) rest

/-- The place itself and all later ones. -/
def onwards (p : Place) : List Place := (onwardsOnto [] p p.after).reverse

theorem onwardsOnto_eq : ∀ (found : List Place) (p : Place) (text : List Char),
    onwardsOnto found p text = onwardsOnto [] p text ++ found
  | _, _, [] => rfl
  | found, p, c :: rest => by
    simp only [onwardsOnto]
    rw [onwardsOnto_eq (p :: found), onwardsOnto_eq [p]]
    simp

theorem onwards_of_nil {p : Place} (h : p.after = []) : p.onwards = [p] := by
  simp [onwards, h, onwardsOnto]

theorem onwards_of_cons {p : Place} {c : Char} {rest : List Char} (h : p.after = c :: rest) :
    p.onwards = p :: (p.pass c rest).onwards := by
  simp only [onwards, h, onwardsOnto, pass]
  rw [onwardsOnto_eq]
  simp

end Place

end KeywordGrammar
