/-!
# Binary floating point, exactly

A finite double is a sign and a product `significand · 2 ^ exponent`; every operation here is exact
arithmetic on natural numbers followed by one rounding to the nearest double, ties to an even
significand.

* `Conformance.Binary64.ofRatio?` – the double **nearest** to a quotient, or nothing when it is too
  large to be one;
* `Conformance.Binary64.scaleByTen?` – a double times a power of ten, itself rounded to a double.
-/

namespace Conformance

/-- A finite double, `± significand · 2 ^ exponent`. Values built by this library are normal: the
significand is below `2 ^ 53`, and it is at least `2 ^ 52` unless the exponent is the least one. -/
structure Binary64 where
  /-- The sign; zero has one too. -/
  negative : Bool
  /-- The integer significand. -/
  significand : Nat
  /-- The power of two that scales it. -/
  exponent : Int
deriving DecidableEq, Repr, Inhabited

namespace Binary64

/-- The exponent of the subnormal doubles, and of zero. -/
def minExponent : Int := -1074

/-- The exponent of the largest doubles. -/
def maxExponent : Int := 971

/-- The least significand of a double that is not subnormal, `2 ^ 52`. -/
def hiddenBit : Nat := 4503599627370496

/-- The bound on all significands, `2 ^ 53`. -/
def carryLimit : Nat := 9007199254740992

/-- Positive zero. -/
def zero : Binary64 := ⟨false, 0, minExponent⟩

/-- The same magnitude with the sign given. -/
def withSign (x : Binary64) (negative : Bool) : Binary64 := { x with negative }

/-- Whether the value is a zero of either sign. -/
def isZero (x : Binary64) : Bool := x.significand == 0

/-- Equality of values: the two zeros are equal. -/
def sameValue (x y : Binary64) : Bool := x == y || (x.isZero && y.isZero)

/-- The quotient `num / den` rounded to a natural number, ties to even. -/
def roundDiv (num den : Nat) : Nat :=
  let q := num / den
  let twice := 2 * (num % den)
  if twice > den || (twice == den && q % 2 == 1) then q + 1 else q

/-- The quotient `num / (den · 2 ^ e)` rounded to a natural number. -/
def roundAt (num den : Nat) (e : Int) : Nat :=
  if 0 ≤ e then roundDiv num (den * Nat.pow 2 e.toNat)
  else roundDiv (num * Nat.pow 2 (-e).toNat) den

/-- Whether `num / den` is at least `2 ^ k`. -/
def reaches (num den : Nat) (k : Int) : Bool :=
  if 0 ≤ k then den * Nat.pow 2 k.toNat ≤ num else den ≤ num * Nat.pow 2 (-k).toNat

/-- The exponent of the double nearest to a positive quotient: the one that leaves a significand of
53 bits, or the least one. The logarithms miss the binary order of the quotient by at most one. -/
def exponentOf (num den : Nat) : Int :=
  let guess : Int := (num.log2 : Int) - (den.log2 : Int)
  let order := if reaches num den guess then guess else guess - 1
  max (order - 52) minExponent

/-- The double nearest to `num / den`, for a positive `den`. There is none when the rounded value
is `2 ^ 1024` or more. -/
def ofRatio? (num den : Nat) : Option Binary64 :=
  if num == 0 then some zero
  else
    let e := exponentOf num den
    let m := roundAt num den e
    let (m, e) := if m == carryLimit then (hiddenBit, e + 1) else (m, e)
    if e > maxExponent then none else some ⟨false, m, e⟩

/-- Numerator and denominator of the magnitude. -/
def toRatio (x : Binary64) : Nat × Nat :=
  if 0 ≤ x.exponent then (x.significand * Nat.pow 2 x.exponent.toNat, 1)
  else (x.significand, Nat.pow 2 (-x.exponent).toNat)

/-- The product of two doubles, rounded; the sign is the first one's. -/
def mul? (x y : Binary64) : Option Binary64 :=
  let (a, b) := x.toRatio
  let (c, d) := y.toRatio
  (ofRatio? (a * c) (b * d)).map (·.withSign x.negative)

/-- The quotient of two doubles, rounded; the sign is the first one's. -/
def div? (x y : Binary64) : Option Binary64 :=
  let (a, b) := x.toRatio
  let (c, d) := y.toRatio
  (ofRatio? (a * d) (b * c)).map (·.withSign x.negative)

/-- The largest power of ten that is a double. -/
def maxTenPower : Nat := 308

/-- The double nearest to `10 ^ k`. -/
def tenPower? (k : Nat) : Option Binary64 := ofRatio? (Nat.pow 10 k) 1

/-- Divides by `10 ^ k`, in steps of at most `10 ^ 308`, each step rounding; a zero needs no
further step. -/
def divTenPower? (x : Binary64) (k : Nat) : Option Binary64 :=
  if k ≤ maxTenPower then do x.div? (← tenPower? k)
  else if x.isZero then some x
  else do divTenPower? (← x.div? (← tenPower? maxTenPower)) (k - maxTenPower)
termination_by k
decreasing_by simp_all [maxTenPower]; omega

/-- A double times `10 ^ k`, with the power rounded to a double first. A result that is too large
is refused, and so is every power above `10 ^ 308` unless the double is a zero. -/
def scaleByTen? (x : Binary64) (k : Int) : Option Binary64 :=
  if k < 0 then x.divTenPower? (-k).toNat
  else if k ≤ maxTenPower then do x.mul? (← tenPower? k.toNat)
  else if x.isZero then some x else none

end Binary64

end Conformance
