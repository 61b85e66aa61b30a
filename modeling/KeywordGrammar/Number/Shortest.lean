/-
# The shortest decimal of a double

The reals that round to a double form an interval around it, closed iff its mantissa is even.  The
decimal text of the double is the coarsest one that lies in the interval: the grid of multiples of a
power of ten is refined until it has a point there, and of the two neighbours of the value on that
grid the nearer one is taken, or the even one of two equally near.

Magnitudes from `10 ^ (-5)` to below `10 ^ 16` are written without an exponent and always with a
point, all others with one digit in front of the point and a signed exponent.
-/
import KeywordGrammar.Number.Binary64

namespace KeywordGrammar.Binary64

/-! ## 1. The rounding interval -/

/-- The ends of the rounding interval in quarters of `2 ^ exponent`.  Below a power of two the
neighbour is only half as far away. -/
def intervalQuarters (x : Binary64) : Nat × Nat :=
  let below := if x.mantissa = Nat.pow 2 52 && decide (-1074 < x.exponent) then 1 else 2
  (4 * x.mantissa - below, 4 * x.mantissa + 2)

/-- Whether `digits * 10 ^ place` rounds to the double. -/
def reads (x : Binary64) (digits : Nat) (place : Int) : Bool :=
  let (low, high) := x.intervalQuarters
  let unit := ratio ⟨1, x.exponent⟩
  let ten := if 0 ≤ place then (Nat.pow 10 place.toNat, 1) else (1, Nat.pow 10 (-place).toNat)
  let point := digits * 4 * ten.1 * unit.2
  let lower := low * unit.1 * ten.2
  let upper := high * unit.1 * ten.2
  if x.mantissa % 2 = 0 then decide (lower ≤ point) && decide (point ≤ upper)
  else decide (lower < point) && decide (point < upper)

/-! ## 2. The coarsest grid -/

/-- The value's lower neighbour on the grid of multiples of `10 ^ place`, and whether the upper one
comes first: it is nearer, or as near and even. -/
def gridNeighbour (x : Binary64) (place : Int) : Nat × Bool :=
  let num := if 0 ≤ place then x.ratio.1 else x.ratio.1 * Nat.pow 10 (-place).toNat
  let den := if 0 ≤ place then x.ratio.2 * Nat.pow 10 place.toNat else x.ratio.2
  let twice := 2 * (num % den)
  (num / den, decide (den < twice) || (decide (den = twice) && num / den % 2 == 1))

/-- Digits and place of the decimal on the coarsest grid from `10 ^ place` down. -/
def shortestFrom (x : Binary64) : Nat → Int → Nat × Int
  | 0, place => ((x.gridNeighbour place).1, place)
  | finer + 1, place =>
    let (low, upperFirst) := x.gridNeighbour place
    let first := if upperFirst then low + 1 else low
    let second := if upperFirst then low else low + 1
    if x.reads first place then (first, place)
    else if x.reads second place then (second, place)
    else shortestFrom x finer (place - 1)

/-- The shortest decimal `digits * 10 ^ place` that reads back as the double. -/
def shortest (x : Binary64) : Nat × Int :=
  if x.mantissa = 0 then (0, 0) else shortestFrom x 1400 308

/-! ## 3. The text -/

/-- The least exponent that is written without one. -/
def minPositional : Int := -5

/-- The largest exponent that is written without one. -/
def maxPositional : Int := 15

/-- `digits * 10 ^ place` without an exponent and with a point. -/
def positional (digits : List Char) (place : Int) : List Char :=
  if 0 ≤ place then digits ++ List.replicate place.toNat '0' ++ ['.', '0']
  else
    let after := (-place).toNat
    let padded := List.replicate (after + 1 - digits.length) '0' ++ digits
    padded.take (padded.length - after) ++ '.' :: padded.drop (padded.length - after)

/-- Digits with a point behind the first one, and an exponent with its sign. -/
def scientific (digits : List Char) (exponent : Int) : List Char :=
  let significand := if digits.length ≤ 1 then digits else digits.take 1 ++ '.' :: digits.drop 1
  let sign := if exponent < 0 then '-' else '+'
  significand ++ 'e' :: sign :: Nat.toDigits 10 exponent.natAbs

/-- The decimal text of the double. -/
def text (x : Binary64) : List Char :=
  let (number, place) := x.shortest
  let digits := Nat.toDigits 10 number
  let exponent : Int := place + digits.length - 1
  if minPositional ≤ exponent ∧ exponent ≤ maxPositional then positional digits place
  else scientific digits exponent

/-- Halves and quarters are exact; a tenth is not, and still needs one digit. -/
example : (ofRatio 9 4).map text = some "2.25".toList ∧ (ofRatio 1 10).map text = some "0.1".toList ∧
    (ofRatio 100 1).map text = some "100.0".toList := by decide +kernel

/-- From `10 ^ 16` on an exponent is written. -/
example : (ofRatio 10000000000000000 1).map text = some "1e+16".toList := by decide +kernel

end KeywordGrammar.Binary64
