import Conformance.Number.Basic

/-!
# Number literals

A literal is split into sign, digits and exponent by the text formats; here its parts become a
number. There are two ways to the double nearest to a decimal.

* `Conformance.DecimalLiteral.rounded?` rounds the decimal **once**.
* `Conformance.DecimalLiteral.scaled?` keeps only as many leading digits as fit a word, rounds
  them, and then scales by a power of ten, which rounds again: at most one digit of the last place
  is lost, and only literals of more than fifteen digits or large exponents notice.
-/

namespace Conformance

/-- A number literal taken apart: `± whole . fraction e exponent`. -/
structure DecimalLiteral where
  /-- Whether a minus sign leads. -/
  negative : Bool
  /-- The digits before the point. -/
  whole : List Nat
  /-- The digits after the point. -/
  fraction : List Nat
  /-- The exponent; zero when none is written. -/
  exponent : Int
deriving Repr

namespace DecimalLiteral

/-- The natural number a list of digits denotes in a base. -/
def ofDigits (base : Nat) (ds : List Nat) : Nat := ds.foldl (fun n d => n * base + d) 0

/-- The greatest unsigned word, `2 ^ 64 - 1`. -/
def wordMax : Nat := 18446744073709551615

/-- Takes digits for as long as the number they extend stays below `2 ^ 64`; also the digits that
are left. -/
def takeWord (n : Nat) : List Nat → Nat × List Nat
  | [] => (n, [])
  | d :: ds => if n * 10 + d ≤ wordMax then takeWord (n * 10 + d) ds else (n, d :: ds)

/-- The double of the leading digits that fit a word, scaled by the power of ten that is left.
Whole digits that do not fit raise the exponent; fraction digits that do not fit are dropped. -/
def scaled? (l : DecimalLiteral) : Option Binary64 := do
  let (n, wholeLeft) := takeWord 0 l.whole
  let (m, fractionLeft) := takeWord n l.fraction
  let shift : Int := wholeLeft.length - (l.fraction.length - fractionLeft.length : Nat)
  let x ← (← Binary64.ofRatio? m 1).scaleByTen? (shift + l.exponent)
  return x.withSign l.negative

/-- More tenfold steps than any double can bear. -/
def exponentBound : Int := 400

/-- The double nearest to the decimal. A decimal that is out of reach of all doubles is recognised
by its order before any power is computed. -/
def rounded? (l : DecimalLiteral) : Option Binary64 :=
  let digits := ofDigits 10 (l.whole ++ l.fraction)
  let shift := l.exponent - l.fraction.length
  let order := shift + Binary64.digitCount digits
  let magnitude :=
    if digits == 0 then some Binary64.zero
    else if order > exponentBound then none
    else if order < -exponentBound then some Binary64.zero
    else if 0 ≤ shift then Binary64.ofRatio? (digits * Nat.pow 10 shift.toNat) 1
    else Binary64.ofRatio? digits (Nat.pow 10 (-shift).toNat)
  magnitude.map (·.withSign l.negative)

end DecimalLiteral

end Conformance
