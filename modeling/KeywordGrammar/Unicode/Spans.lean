/-
# Sets of characters as spans

A set of characters is held as its spans of code points in increasing order, no two of which touch.
Surrogates are no characters and are in no set.  The operations on sets come down to two: putting
spans together in any order, and taking what lies between them.
-/
import KeywordGrammar.Unicode.Fold

namespace KeywordGrammar.Unicode

/-- Spans of code points, each by its first and last one. -/
abbrev Spans := List (Nat × Nat)

namespace Spans

/-! ## 1. Putting spans together -/

/-- The last code point. -/
def lastCode : Nat := 0x10FFFF

/-- The first surrogate. -/
def firstSurrogate : Nat := 0xD800

/-- The last surrogate. -/
def lastSurrogate : Nat := 0xDFFF

/-- Joins spans whose beginnings increase to those that are `joined`, the last of which stands
first. -/
def joinOnto (joined : Spans) : Spans → Spans
  | [] => joined.reverse
  | (lo, hi) :: rest =>
    match joined with
    | [] => joinOnto [(lo, hi)] rest
    | (lo', hi') :: more =>
      if lo ≤ hi' + 1 then joinOnto ((lo', max hi' hi) :: more) rest
      else joinOnto ((lo, hi) :: joined) rest

/-- Spans in any order as a set. -/
def join (spans : Spans) : Spans := joinOnto [] (spans.mergeSort (fun a b => a.1 ≤ b.1))

/-- The characters from one code point up to another, in front of `found`; the last ones of them stand
first.  There may be none. -/
def charsOnto (found : Spans) (lo hi : Nat) : Spans :=
  if hi < lo then found
  else if hi < firstSurrogate ∨ lastSurrogate < lo then (lo, hi) :: found
  else
    let found := if lo < firstSurrogate then (lo, firstSurrogate - 1) :: found else found
    if lastSurrogate < hi then (lastSurrogate + 1, hi) :: found else found

/-- What lies between the spans from code point `n` on, in front of the gaps that are `found`, the
last of which stands first. -/
def gapsOnto (found : Spans) (n : Nat) : Spans → Spans
  | [] => (charsOnto found n lastCode).reverse
  | (lo, hi) :: rest =>
    gapsOnto (if n < lo then charsOnto found n (lo - 1) else found) (hi + 1) rest

/-! ## 2. Operations -/

/-- All other characters. -/
def complement (s : Spans) : Spans := gapsOnto [] 0 s

/-- All characters. -/
def full : Spans := complement []

/-- The characters of either set. -/
def union (s t : Spans) : Spans := join (s ++ t)

/-- The characters of both sets. -/
def inter (s t : Spans) : Spans := complement (union (complement s) (complement t))

/-- The characters of the first set that are not in the second. -/
def diff (s t : Spans) : Spans := complement (union (complement s) t)

/-- The characters of one of two sets, but not of both. -/
def symmDiff (s t : Spans) : Spans := diff (union s t) (inter s t)

/-- The characters between two code points, both included. -/
def range (lo hi : Nat) : Spans := (charsOnto [] lo hi).reverse

/-- The set of one character. -/
def single (c : Char) : Spans := [(c.toNat, c.toNat)]

/-- Whether all characters are ASCII. -/
def isAscii (s : Spans) : Bool := s.all (fun span => decide (span.2 < 128))

/-! ## 3. Case -/

/-- Where a run moves the code points from `lo` to `hi`. -/
def movedBetween (r : CaseRun) (lo hi : Nat) : Spans :=
  let lo := max r.first lo
  let hi := min r.last hi
  let lo := lo + (r.step - (lo - r.first) % r.step) % r.step
  if hi < lo then []
  else if r.step = 1 then [(r.target lo, r.target hi)]
  else
    (List.range ((hi - lo) / r.step + 1)).map (fun k =>
      (r.target (lo + k * r.step), r.target (lo + k * r.step)))

/-- Where some runs, in the order of what they move, move the characters of a set, and those that are
`found`. -/
def movedOnto (found : Spans) : List CaseRun → Spans → Spans
  | [], _ => found
  | r :: rest, s =>
    let ahead := s.dropWhile (fun span => decide (span.2 < r.first))
    let within := ahead.takeWhile (fun span => decide (span.1 ≤ r.last))
    movedOnto (within.flatMap (fun span => movedBetween r span.1 span.2) ++ found) rest ahead

/-- The characters that are the same as one of the set up to case. -/
def caseless (s : Spans) : Spans :=
  let folded := join (movedOnto s foldRuns s)
  join (movedOnto folded unfoldRuns folded)

/-- The ASCII letters of both cases for those of the set. -/
def caselessAscii (s : Spans) : Spans :=
  let lower := (inter s [(0x41, 0x5A)]).map (fun span => (span.1 + 0x20, span.2 + 0x20))
  let upper := (inter s [(0x61, 0x7A)]).map (fun span => (span.1 - 0x20, span.2 - 0x20))
  join (s ++ lower ++ upper)

/-! ## 4. Written sets -/

/-- Pairs up the bounds of spans, each given by its distance from the one before, from code point `n`
on; the `found` spans stand in front, the last one first. -/
def ofDistancesOnto (found : Spans) (n : Nat) : List Nat → Spans
  | gap :: length :: rest =>
    ofDistancesOnto ((n + gap, n + gap + length - 1) :: found) (n + gap + length) rest
  | _ => found.reverse

/-- The value of a capital hexadecimal digit. -/
def digitValue (c : Char) : Nat :=
  if c.isDigit then c.toNat - '0'.toNat else c.toNat - 'A'.toNat + 10

/-- The set that a text writes: in turn the length of a gap and the length of a span, in hexadecimal
digits with blanks between them. -/
def ofText (text : String) : Spans :=
  let words := (text.toList.splitOnP (fun c => c == ' ' || c == '\n')).filter (fun w => !w.isEmpty)
  ofDistancesOnto [] 0 (words.map (fun w => w.foldl (fun n c => 16 * n + digitValue c) 0))

/-- The capital letters. -/
example : ofText "41 1A" = [(0x41, 0x5A)] := by decide +kernel

/-- Surrogates are left out on both sides. -/
example : complement [(0, 0xD7FE)] = [(0xD7FF, 0xD7FF), (0xE000, 0x10FFFF)] ∧
    complement [(0, 0xD7FF), (0xE000, 0x10FFFF)] = [] := by cbv

/-- The Kelvin sign is a third form of `k`, and all of the sigmas are found from one. -/
example : caseless [(0x6B, 0x6B)] = [(0x4B, 0x4B), (0x6B, 0x6B), (0x212A, 0x212A)] ∧
    caseless [(0x3C2, 0x3C2)] = [(0x3A3, 0x3A3), (0x3C2, 0x3C3)] := by cbv

end Spans

end KeywordGrammar.Unicode
