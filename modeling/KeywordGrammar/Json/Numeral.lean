/-
# Numbers

A number is read as a numeral first: its digits before and after the point and in the exponent.  The
numeral's value is an integer if it has neither point nor exponent and fits into 64 bits, and a double
otherwise.  The digits of a double are gathered into one 64-bit significand, and those that no longer
fit count as places only; so the double is not always the nearest one to the decimal.
-/
import KeywordGrammar.Json.Reader
import KeywordGrammar.Json.Value

namespace KeywordGrammar.Json

/-! ## 1. Numerals -/

/-- The parts of a number as digits; an exponent has a sign. -/
structure Numeral where
  negative : Bool
  whole : List Nat
  fraction : Option (List Nat)
  exponent : Option (Bool × List Nat)
  deriving DecidableEq, Repr

/-- The digits at the front of a text. -/
def digitsOf (s : List Char) : List Nat := (s.takeWhile Char.isDigit).map (fun c => c.toNat - 48)

/-- The text behind the digits at its front. -/
def afterDigits (s : List Char) : List Char := s.dropWhile Char.isDigit

/-- Whether a digit stands in front. -/
def startsWithDigit (s : List Char) : Bool := s.head?.any Char.isDigit

theorem length_afterDigits_le (s : List Char) : (afterDigits s).length ≤ s.length :=
  (List.dropWhile_sublist Char.isDigit).length_le

theorem length_afterDigits_lt {s : List Char} (h : startsWithDigit s = true) :
    (afterDigits s).length < s.length := by
  match s with
  | [] => simp [startsWithDigit] at h
  | c :: r =>
    have hc : c.isDigit = true := by simpa [startsWithDigit] using h
    have := length_afterDigits_le r
    simp only [afterDigits, List.dropWhile_cons, hc, if_true, List.length_cons] at *
    omega

/-- The digits that are due in front of `s`; without one, `ahead` bytes count as read. -/
def requiredDigits (s : List Char) : Outcome (List Nat) :=
  if startsWithDigit s then .ok (digitsOf s, afterDigits s)
  else if s.isEmpty then stop .unfinishedValue [] 0
  else stop .invalidNumber s 1

/-- The point and the digits behind it, if there is a point. -/
def fractionFrom (s : List Char) : Outcome (Option (List Nat)) :=
  match s with
  | '.' :: r =>
    match requiredDigits r with
    | .ok (digits, t) => .ok (some digits, t)
    | .error e => .error e
  | s => .ok (none, s)

/-- The text behind a sign, and whether the sign is other than minus. -/
def signOf : List Char → Bool × List Char
  | '+' :: r => (true, r)
  | '-' :: r => (false, r)
  | s => (true, s)

/-- The exponent, if there is one. -/
def exponentFrom (s : List Char) : Outcome (Option (Bool × List Nat)) :=
  match s with
  | [] => .ok (none, [])
  | c :: r =>
    if c = 'e' ∨ c = 'E' then
      match requiredDigits (signOf r).2 with
      | .ok (digits, t) => .ok (some ((signOf r).1, digits), t)
      | .error e => .error e
    else .ok (none, c :: r)

/-- A numeral from its first digit on. -/
def numeralFrom (negative : Bool) (s : List Char) : Outcome Numeral :=
  match requiredDigits s with
  | .error e => .error e
  | .ok (whole, afterWhole) =>
    if s.head? = some '0' ∧ startsWithDigit s.tail = true then stop .invalidNumber s.tail 1
    else
      match fractionFrom afterWhole with
      | .error e => .error e
      | .ok (fraction, afterFraction) =>
        match exponentFrom afterFraction with
        | .error e => .error e
        | .ok (exponent, rest) => .ok (⟨negative, whole, fraction, exponent⟩, rest)

theorem length_requiredDigits_lt {s r : List Char} {ds : List Nat}
    (h : requiredDigits s = .ok (ds, r)) : r.length < s.length := by
  unfold requiredDigits stop at h
  split at h
  · rename_i hd
    simp only [Except.ok.injEq, Prod.mk.injEq] at h
    exact h.2 ▸ length_afterDigits_lt hd
  · split at h <;> simp at h

theorem length_fractionFrom_le {s r : List Char} {f : Option (List Nat)}
    (h : fractionFrom s = .ok (f, r)) : r.length ≤ s.length := by
  unfold fractionFrom at h
  split at h
  · split at h
    · rename_i hd
      have := length_requiredDigits_lt hd
      simp only [Except.ok.injEq, Prod.mk.injEq] at h
      simp only [List.length_cons, ← h.2]
      omega
    · simp at h
  · simp only [Except.ok.injEq, Prod.mk.injEq] at h
    exact Nat.le_of_eq (congrArg List.length h.2.symm)

theorem length_signOf_le (s : List Char) : (signOf s).2.length ≤ s.length := by
  unfold signOf
  split <;> simp

theorem length_exponentFrom_le {s r : List Char} {e : Option (Bool × List Nat)}
    (h : exponentFrom s = .ok (e, r)) : r.length ≤ s.length := by
  unfold exponentFrom at h
  split at h
  · simp only [Except.ok.injEq, Prod.mk.injEq] at h
    simp [← h.2]
  · rename_i c t
    split at h
    · split at h
      · rename_i hd
        have := length_requiredDigits_lt hd
        have := length_signOf_le t
        simp only [Except.ok.injEq, Prod.mk.injEq] at h
        simp only [List.length_cons, ← h.2]
        omega
      · simp at h
    · simp only [Except.ok.injEq, Prod.mk.injEq] at h
      simp [← h.2]

theorem length_numeralFrom_lt {negative : Bool} {s r : List Char} {n : Numeral}
    (h : numeralFrom negative s = .ok (n, r)) : r.length < s.length := by
  unfold numeralFrom stop at h
  split at h
  · simp at h
  · rename_i hw
    have := length_requiredDigits_lt hw
    split at h
    · simp at h
    · split at h
      · simp at h
      · rename_i hf
        have := length_fractionFrom_le hf
        split at h
        · simp at h
        · rename_i he
          have := length_exponentFrom_le he
          simp only [Except.ok.injEq, Prod.mk.injEq] at h
          rw [← h.2]
          omega

/-! ## 2. Values -/

/-- The largest significand. -/
def maxSignificand : Nat := 18446744073709551615

/-- The largest exponent that is counted out. -/
def maxExponent : Nat := 2147483647

/-- Appends digits to a significand as long as it stays in range; also the number of digits left. -/
def takeDigits (significand : Nat) : List Nat → Nat × Nat
  | [] => (significand, 0)
  | d :: ds =>
    if maxSignificand < significand * 10 + d then (significand, ds.length + 1)
    else takeDigits (significand * 10 + d) ds

/-- The number that digits write behind `n`, or how many are left when it passes the largest
exponent. -/
def countOut (n : Nat) : List Nat → Except Nat Nat
  | [] => .ok n
  | d :: ds => if maxExponent < n * 10 + d then .error ds.length else countOut (n * 10 + d) ds

/-- The integer of 64 bits with this sign and magnitude, or else the double nearest to it.  A
negative zero is a double. -/
def integerValue (negative : Bool) (magnitude : Nat) : Value :=
  if !negative then .int magnitude
  else if magnitude = 0 ∨ maxSignificand / 2 + 1 < magnitude then
    .float true ((Binary64.ofRatio magnitude 1).getD Binary64.zero)
  else .int (-magnitude)

/-- The double `significand * 10 ^ place`, if it is finite. -/
def floatValue (negative : Bool) (significand : Nat) (place : Int) : Except Nat Value :=
  match ((Binary64.ofRatio significand 1).getD Binary64.zero).scaleByTen place with
  | some x => .ok (.float negative x)
  | none => .error 0

namespace Numeral

/-- The value of a numeral; if it is out of range, how many of its last digits did not matter. -/
def value (n : Numeral) : Except Nat Value :=
  let (start, dropped) := takeDigits 0 n.whole
  let (significand, left) := takeDigits start (n.fraction.getD [])
  let place : Int := (dropped : Int) + (left : Int) - ((n.fraction.getD []).length : Int)
  match n.exponent with
  | some (positive, digits) =>
    match countOut 0 digits with
    | .ok e => floatValue n.negative significand (if positive then place + e else place - e)
    | .error unread =>
      if significand ≠ 0 ∧ positive then .error unread else .ok (.float n.negative Binary64.zero)
  | none =>
    if n.fraction.isNone ∧ dropped = 0 then .ok (integerValue n.negative start)
    else floatValue n.negative significand place

end Numeral

/-- A number from its first digit on. -/
def numberFrom (negative : Bool) (s : List Char) : Outcome Value :=
  match numeralFrom negative s with
  | .error e => .error e
  | .ok (n, r) =>
    match n.value with
    | .ok v => .ok (v, r)
    | .error unread => stop .numberOutOfRange (s.drop (s.length - r.length - unread)) 0

theorem length_numberFrom_lt {negative : Bool} {s r : List Char} {v : Value}
    (h : numberFrom negative s = .ok (v, r)) : r.length < s.length := by
  unfold numberFrom stop at h
  split at h
  · simp at h
  · rename_i hn
    have := length_numeralFrom_lt hn
    split at h
    · simp only [Except.ok.injEq, Prod.mk.injEq] at h
      exact h.2 ▸ this
    · simp at h

end KeywordGrammar.Json
