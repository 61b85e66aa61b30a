/-
# Binary floating point in exact arithmetic

The magnitude of a finite double is `mantissa * 2 ^ exponent` with a mantissa below `2 ^ 53` and an
exponent from `-1074` on.  Every operation is the exact rational result rounded once, to the nearest
double and of two equally near ones to the even one; a result past the largest double is none.
-/

namespace KeywordGrammar

/-- The magnitude `mantissa * 2 ^ exponent` of a finite double. -/
structure Binary64 where
  mantissa : Nat
  exponent : Int
  deriving DecidableEq, Repr

namespace Binary64

/-! ## 1. Rounding -/

/-- The quotient rounded to the nearest integer, a half to the even neighbour. -/
def divNearest (num den : Nat) : Nat :=
  let q := num / den
  let r := num % den
  if 2 * r < den then q else if den < 2 * r then q + 1 else q + q % 2

/-- The ratio `num / (den * 2 ^ e)`, as numerator and denominator. -/
def scaled (num den : Nat) (e : Int) : Nat × Nat :=
  if 0 ≤ e then (num, den * Nat.pow 2 e.toNat) else (num * Nat.pow 2 (-e).toNat, den)

/-- The exponent `e` with `2 ^ 52 ≤ num / (den * 2 ^ e) < 2 ^ 53`, or the least one. -/
def fittingExponent (num den : Nat) : Int :=
  let guess : Int := (num.log2 : Int) - (den.log2 : Int)
  let (n, d) := scaled num den guess
  max (-1074) ((if n < d then guess - 1 else guess) - 52)

/-- The double nearest to `num / den`, if that is finite. -/
def ofRatio (num den : Nat) : Option Binary64 :=
  if num = 0 then some ⟨0, -1074⟩
  else
    let e := fittingExponent num den
    let (n, d) := scaled num den e
    let m := divNearest n d
    let x : Binary64 := if m = Nat.pow 2 53 then ⟨Nat.pow 2 52, e + 1⟩ else ⟨m, e⟩
    if x.exponent ≤ 971 then some x else none

/-! ## 2. Arithmetic -/

/-- The zero. -/
def zero : Binary64 := ⟨0, -1074⟩

instance : Inhabited Binary64 := ⟨zero⟩

/-- The exact value, as numerator and denominator. -/
def ratio (x : Binary64) : Nat × Nat :=
  if 0 ≤ x.exponent then (x.mantissa * Nat.pow 2 x.exponent.toNat, 1)
  else (x.mantissa, Nat.pow 2 (-x.exponent).toNat)

/-- The rounded product. -/
def mul (x y : Binary64) : Option Binary64 :=
  ofRatio (x.ratio.1 * y.ratio.1) (x.ratio.2 * y.ratio.2)

/-- The rounded quotient. -/
def div (x y : Binary64) : Option Binary64 :=
  ofRatio (x.ratio.1 * y.ratio.2) (x.ratio.2 * y.ratio.1)

/-- The double nearest to a power of ten, up to the largest that is finite. -/
def powerOfTen (k : Nat) : Binary64 := (ofRatio (Nat.pow 10 k) 1).getD zero

/-- The largest power of ten with a finite double. -/
def maxPowerOfTen : Nat := 308

/-- `x` divided by the largest power of ten so many times, rounded each time. -/
def divDown (x : Binary64) : Nat → Option Binary64
  | 0 => some x
  | steps + 1 =>
    if x.mantissa = 0 then some x
    else
      match x.div (powerOfTen maxPowerOfTen) with
      | some y => divDown y steps
      | none => none

/-- `x * 10 ^ exponent` by one multiplication or division for each power of ten that is finite.  A
result past the largest double is none; downwards the steps round on their own, as far as zero. -/
def scaleByTen (x : Binary64) (exponent : Int) : Option Binary64 :=
  let places := exponent.natAbs
  if 0 ≤ exponent then
    if places ≤ maxPowerOfTen then x.mul (powerOfTen places)
    else if x.mantissa = 0 then some x
    else none
  else
    let steps := (places - 1) / maxPowerOfTen
    match x.divDown steps with
    | some y => y.div (powerOfTen (places - maxPowerOfTen * steps))
    | none => none

end Binary64

end KeywordGrammar
