import Conformance.Number.Binary64

/-!
# The shortest decimal that reads back

Every double is the rounding of an interval of rational numbers. Its **shortest decimal** has the
fewest digits of all decimals in that interval, and of those with as few digits it is the nearest
to the double. For each count of digits only the two neighbours of the double on that decimal grid
need be tried, in exact arithmetic.
-/

namespace Conformance

/-- A positive decimal `0.d₁d₂… · 10 ^ point`; the digits neither start nor end with a zero. -/
structure Decimal where
  /-- The digits, as one natural number. -/
  digits : Nat
  /-- The place of the decimal point, counted from the left of the first digit. -/
  point : Int
deriving DecidableEq, Repr

namespace Binary64

/-- The interval of rationals that round to a double, over one common denominator. -/
structure Interval where
  /-- Numerator of the lower end. -/
  low : Nat
  /-- Numerator of the value itself. -/
  mid : Nat
  /-- Numerator of the upper end. -/
  high : Nat
  /-- The common denominator. -/
  den : Nat
  /-- Whether the ends round to the double too, as they do for an even significand. -/
  closed : Bool

/-- The interval of a nonzero magnitude. Below a power of two the doubles lie twice as close, so
that the lower half-gap is half as wide there. -/
def interval (x : Binary64) : Interval :=
  let m := x.significand
  let below := if m == hiddenBit && x.exponent > minExponent then 1 else 2
  let scale := if 0 ≤ x.exponent then Nat.pow 2 x.exponent.toNat else 1
  let den := if 0 ≤ x.exponent then 4 else 4 * Nat.pow 2 (-x.exponent).toNat
  ⟨(4 * m - below) * scale, 4 * m * scale, (4 * m + 2) * scale, den, m % 2 == 0⟩

/-- Whether `digits · 10 ^ k` lies in the interval. -/
def Interval.contains (i : Interval) (digits : Nat) (k : Int) : Bool :=
  let v := if 0 ≤ k then digits * Nat.pow 10 k.toNat * i.den else digits * i.den
  let unit := if 0 ≤ k then 1 else Nat.pow 10 (-k).toNat
  if i.closed then i.low * unit ≤ v && v ≤ i.high * unit
  else i.low * unit < v && v < i.high * unit

/-- The number of decimal digits of a natural number; zero has none. -/
def digitCount (n : Nat) : Nat := if n == 0 then 0 else (Nat.toDigits 10 n).length

/-- The number of tenfold steps, from `j` on, after which `num / den` is at least one. -/
def stepsToOne (num den : Nat) : Nat → Nat → Nat
  | 0, j => j
  | fuel + 1, j => if den ≤ num * Nat.pow 10 j then j else stepsToOne num den fuel (j + 1)

/-- The decimal order of a positive quotient: the `p` with `10 ^ (p - 1) ≤ num / den < 10 ^ p`. No
double needs more than 324 tenfold steps to reach one. -/
def decimalOrder (num den : Nat) : Int :=
  if den ≤ num then digitCount (num / den) else 1 - (stepsToOne num den 400 0 : Int)

/-- The neighbour on the grid of multiples of `10 ^ k` that lies in the interval, the nearer of two,
and the even one of two equally near. -/
def Interval.onGrid (i : Interval) (k : Int) : Option Nat :=
  let num := if 0 ≤ k then i.mid else i.mid * Nat.pow 10 (-k).toNat
  let den := if 0 ≤ k then i.den * Nat.pow 10 k.toNat else i.den
  let down := num / den
  let rest := 2 * (num % den)
  match i.contains down k && down != 0, i.contains (down + 1) k with
  | true, true =>
    some (if rest < den || (rest == den && down % 2 == 0) then down else down + 1)
  | true, false => some down
  | false, true => some (down + 1)
  | false, false => none

/-- Removes trailing zeros. -/
def trimZeros : Nat → Nat → Nat
  | 0, n => n
  | fuel + 1, n => if n != 0 && n % 10 == 0 then trimZeros fuel (n / 10) else n

/-- Tries the grids of `count`, `count + 1`, … digits. -/
def shortestFrom (i : Interval) (order : Int) : Nat → Nat → Decimal
  | 0, _ => ⟨0, 0⟩
  | fuel + 1, count =>
    match i.onGrid (order - count) with
    | some d => ⟨trimZeros 20 d, digitCount d + (order - count)⟩
    | none => shortestFrom i order fuel (count + 1)

/-- The shortest decimal of a nonzero double; seventeen digits always suffice. -/
def shortest (x : Binary64) : Decimal :=
  let i := x.interval
  shortestFrom i (decimalOrder i.mid i.den) 17 1

end Binary64

end Conformance
