import Conformance.Number.Shortest

/-!
# Numbers of a document

A number is an **integer** that fits a 64-bit word, signed or unsigned, or a finite **double**. The
two are kept apart: `1` is an integer and `1.0` is not.

* `Conformance.Number.text` – the text of a number, which reads back as the same number;
* `Conformance.Number.layout` – where positional notation of doubles ends and how their exponents
  are written.
-/

namespace Conformance

/-- The least signed word, `-2 ^ 63`. -/
def WordInt.min : Int := -9223372036854775808

/-- The greatest unsigned word, `2 ^ 64 - 1`. -/
def WordInt.max : Int := 18446744073709551615

/-- An integer in the range of a 64-bit word, signed or unsigned. -/
structure WordInt where
  /-- The integer. -/
  val : Int
  /-- It is not below the least signed word. -/
  lower : WordInt.min ≤ val
  /-- It is not above the greatest unsigned word. -/
  upper : val ≤ WordInt.max
deriving DecidableEq

namespace WordInt

/-- The integer as a word, if it is in range. -/
def ofInt? (i : Int) : Option WordInt :=
  if h : min ≤ i ∧ i ≤ max then some ⟨i, h.1, h.2⟩ else none

end WordInt

/-- The number in a leaf of a document. -/
inductive Number where
  /-- An integer of one word. -/
  | integer (i : WordInt)
  /-- A finite double. -/
  | double (x : Binary64)
deriving DecidableEq

/-- How doubles are written. -/
structure DoubleLayout where
  /-- The least decimal exponent written positionally. -/
  positionalFrom : Int
  /-- The least decimal exponent above that which is written scientifically again. -/
  scientificFrom : Int
  /-- The text before a nonnegative exponent. -/
  plusMark : String
  /-- The text before a negative exponent. -/
  minusMark : String

namespace Number

/-- Doubles are written positionally, with at least one digit on either side of the point, from
`10 ^ -5` up to, and not including, `10 ^ 16`. Other exponents carry their sign. -/
def layout : DoubleLayout := ⟨-5, 16, "e+", "e-"⟩

/-- Decimal digits of a natural number. -/
def natText (n : Nat) : String := String.ofList (Nat.toDigits 10 n)

/-- Decimal text of an integer. -/
def intText (i : Int) : String := if i < 0 then "-" ++ natText (-i).toNat else natText i.toNat

/-- A run of zeros. -/
def zeros (n : Nat) : String := String.ofList (List.replicate n '0')

/-- A decimal in positional notation, with a fraction of at least one digit. -/
def positional (d : Decimal) : String :=
  let ds := Nat.toDigits 10 d.digits
  let n : Int := ds.length
  if d.point ≤ 0 then "0." ++ zeros (-d.point).toNat ++ String.ofList ds
  else if n ≤ d.point then String.ofList ds ++ zeros (d.point - n).toNat ++ ".0"
  else String.ofList (ds.take d.point.toNat) ++ "." ++ String.ofList (ds.drop d.point.toNat)

/-- A decimal in scientific notation, without a fraction when one digit says all. -/
def scientific (l : DoubleLayout) (d : Decimal) : String :=
  let ds := Nat.toDigits 10 d.digits
  let e := d.point - 1
  let fraction := if ds.length ≤ 1 then "" else "." ++ String.ofList (ds.drop 1)
  let mark := if e < 0 then l.minusMark else l.plusMark
  String.ofList (ds.take 1) ++ fraction ++ mark ++ natText e.natAbs

/-- The text of a double: its shortest decimal, laid out. -/
def doubleText (l : DoubleLayout) (x : Binary64) : String :=
  let magnitude :=
    if x.isZero then "0.0"
    else
      let d := x.shortest
      let e := d.point - 1
      if l.positionalFrom ≤ e && e < l.scientificFrom then positional d else scientific l d
  if x.negative then "-" ++ magnitude else magnitude

/-- The text of a number. -/
def text : Number → String
  | .integer i => intText i.val
  | .double x => doubleText layout x

/-- Equality of values: an integer never equals a double, and the two zeros are equal. -/
def sameValue : Number → Number → Bool
  | .integer i, .integer j => i == j
  | .double x, .double y => x.sameValue y
  | _, _ => false

/-- A natural number as a document number; one beyond a word is the nearest double. -/
def ofNat (n : Nat) : Number :=
  match WordInt.ofInt? n with
  | some i => .integer i
  | none => .double ((Binary64.ofRatio? n 1).getD .zero)

end Number

end Conformance
