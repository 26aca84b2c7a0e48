import Conformance.Source.Basic

/-!
# What a YAML scalar denotes

A scalar without marks and tag is null, a truth value, a number or a text by its own look; marks
make it a text, and a tag of the core schema makes it what the tag says. A decoder that expects a
text, a truth value or a count reads the scalar as that instead.

* `Conformance.Scalar.meaning` – the value by its own look;
* `Conformance.Scalar.asBool?`, `Conformance.Scalar.asCount?`, `Conformance.Scalar.isAbsent?` – the
  readings on demand.
-/

namespace Conformance

/-! ### Tags of the core schema -/

namespace CoreTag

/-- Where the tags of the core schema live. -/
def root : String := "tag:yaml.org,2002:"

/-- The tag of null. -/
def null : String := root ++ "null"

/-- The tag of truth values. -/
def bool : String := root ++ "bool"

/-- The tag of integers. -/
def int : String := root ++ "int"

/-- The tag of floating point numbers. -/
def float : String := root ++ "float"

end CoreTag

/-- What a YAML scalar denotes. -/
inductive ScalarMeaning where
  /-- Null. -/
  | null
  /-- A truth value. -/
  | bool (b : Bool)
  /-- An integer of one word. -/
  | integer (i : WordInt)
  /-- An integer beyond a word, of up to two words. -/
  | wide
  /-- A finite double. -/
  | double (x : Binary64)
  /-- An infinite double or none at all, with its name. -/
  | nonFinite (name : String)
  /-- A text. -/
  | text (s : String)
  /-- Nothing: a tag of the core schema says otherwise than the text. -/
  | contradiction
deriving DecidableEq

namespace Scalar

/-! ### The looks of values -/

/-- Whether a text is a spelling of null. -/
def looksNull (s : String) : Bool := s == "~" || s == "null" || s == "Null" || s == "NULL"

/-- The truth value a text spells. -/
def boolOf? (s : String) : Option Bool :=
  if s == "true" || s == "True" || s == "TRUE" then some true
  else if s == "false" || s == "False" || s == "FALSE" then some false
  else none

/-- The value of a digit in a base of at most sixteen. -/
def digitIn? (base : Nat) (c : Char) : Option Nat :=
  let n := c.toNat
  let d :=
    if 48 ≤ n && n ≤ 57 then n - 48
    else if 97 ≤ n && n ≤ 102 then n - 87
    else if 65 ≤ n && n ≤ 70 then n - 55
    else base
  if d < base then some d else none

/-- The natural number a nonempty run of digits denotes in a base. -/
def natIn? (base : Nat) (cs : List Char) : Option Nat :=
  if cs.isEmpty then none
  else (cs.mapM (digitIn? base)).map (DecimalLiteral.ofDigits base)

/-- Drops one leading sign. -/
def dropSign : List Char → List Char
  | '+' :: rest => rest
  | '-' :: rest => rest
  | cs => cs

/-- Whether a text is a run of digits with a superfluous leading zero. Such texts are no numbers. -/
def hasLeadingZero (cs : List Char) : Bool :=
  match dropSign cs with
  | '0' :: d :: rest => (d :: rest).all Char.isDigit
  | _ => false

/-- The base a mark announces, and the digits behind it; without a mark the base is ten. -/
def splitBase : List Char → Nat × List Char
  | '0' :: 'x' :: rest => (16, rest)
  | '0' :: 'o' :: rest => (8, rest)
  | '0' :: 'b' :: rest => (2, rest)
  | cs => (10, cs)

/-- The magnitude of an unsigned run of digits with an optional mark of its base. -/
def magnitude? (cs : List Char) : Option Nat :=
  let (base, digits) := splitBase cs
  natIn? base digits

/-- The integer a text spells, of any size. -/
def intOf? (cs : List Char) : Option Int :=
  if hasLeadingZero cs then none
  else
    match cs with
    | '+' :: rest => (magnitude? rest).map Int.ofNat
    | '-' :: rest => (magnitude? rest).map fun n => -Int.ofNat n
    | _ => (magnitude? cs).map Int.ofNat

/-- The digits of an exponent after its letter. -/
def exponentOf? (cs : List Char) : Option Int :=
  let value := fun ds => (natIn? 10 ds).map Int.ofNat
  match cs with
  | '+' :: rest => value rest
  | '-' :: rest => (value rest).map (- ·)
  | _ => value cs

/-- Splits at the first character of a kind. -/
def splitAt? (p : Char → Bool) (cs : List Char) : List Char × Option (List Char) :=
  match cs.dropWhile (fun c => !p c) with
  | [] => (cs, none)
  | _ :: rest => (cs.takeWhile (fun c => !p c), some rest)

/-- The decimal an unsigned text spells: digits with a point anywhere among them or beside them, and
an optional exponent. -/
def decimalOf? (negative : Bool) (cs : List Char) : Option DecimalLiteral := do
  let (mantissa, power) := splitAt? (fun c => c == 'e' || c == 'E') cs
  let exponent ← match power with
    | none => some 0
    | some ds => exponentOf? ds
  let (whole, fraction) := splitAt? (· == '.') mantissa
  let fraction := fraction.getD []
  if whole.isEmpty && fraction.isEmpty then none
  let whole ← whole.mapM (digitIn? 10)
  let fraction ← fraction.mapM (digitIn? 10)
  return ⟨negative, whole, fraction, exponent⟩

/-- The finite double a text spells; a literal beyond all doubles is not one. -/
def doubleOf? (cs : List Char) : Option Binary64 :=
  let literal := match cs with
    | '+' :: rest => decimalOf? false rest
    | '-' :: rest => decimalOf? true rest
    | _ => decimalOf? false cs
  literal.bind DecimalLiteral.rounded?

/-- The name of the infinity, or of the value that is no number, that a text spells. -/
def nonFiniteOf? (s : String) : Option String :=
  if [".inf", ".Inf", ".INF", "+.inf", "+.Inf", "+.INF"].contains s then some "inf"
  else if ["-.inf", "-.Inf", "-.INF"].contains s then some "-inf"
  else if [".nan", ".NaN", ".NAN"].contains s then some "NaN"
  else none

/-- The floating point value a text spells. -/
def floatOf? (s : String) : Option ScalarMeaning :=
  match nonFiniteOf? s with
  | some name => some (.nonFinite name)
  | none => (doubleOf? s.toList).map .double

/-- The least integer of two words. -/
def wideMin : Int := -170141183460469231731687303715884105728

/-- The greatest integer of two words. -/
def wideMax : Int := 340282366920938463463374607431768211455

/-- The integer a text spells, if it is of at most two words. -/
def integerOf? (s : String) : Option ScalarMeaning :=
  match intOf? s.toList with
  | none => none
  | some i =>
    match WordInt.ofInt? i with
    | some w => some (.integer w)
    | none => if wideMin ≤ i && i ≤ wideMax then some .wide else none

/-- The meaning of a text without marks and tag. -/
def look (s : String) : ScalarMeaning :=
  if s.isEmpty || looksNull s then .null
  else
    match boolOf? s with
    | some b => .bool b
    | none =>
      match integerOf? s with
      | some m => m
      | none =>
        if hasLeadingZero s.toList then .text s else (floatOf? s).getD (.text s)

/-! ### Readings -/

/-- Whether the tag is one of the document's own, which no value of this library carries. -/
def hasLocalTag (tag : Option String) : Bool :=
  match tag with
  | some t => t.toList.head? == some '!'
  | none => false

/-- The value by the scalar's own look and tag. A tag outside the core schema makes a text. -/
def meaning (s : Scalar) : ScalarMeaning :=
  match s.tag with
  | none => if s.style = .plain then look s.text else .text s.text
  | some t =>
    if t == CoreTag.bool then ((boolOf? s.text).map .bool).getD .contradiction
    else if t == CoreTag.int then (integerOf? s.text).getD .contradiction
    else if t == CoreTag.float then (floatOf? s.text).getD .contradiction
    else if t == CoreTag.null then if looksNull s.text then .null else .contradiction
    else if hasLocalTag s.tag && s.style = .plain then look s.text
    else .text s.text

/-- Whether a reading by look alone is allowed: for a scalar without marks, and for a literal block
with the tag of that reading. -/
def readableAs (s : Scalar) (tag : String) : Bool :=
  s.style = .plain || (s.style = .literal && s.tag == some tag)

/-- The scalar read as a truth value. -/
def asBool? (s : Scalar) : Option Bool :=
  if s.readableAs CoreTag.bool then boolOf? s.text else none

/-- The scalar read as a count of one unsigned word. -/
def asCount? (s : Scalar) : Option Nat :=
  if s.readableAs CoreTag.int then
    match intOf? s.text.toList with
    | some i =>
      if s.text.toList.head? != some '-' && i ≤ WordInt.max then some i.toNat else none
    | none => none
  else none

/-- Whether the scalar is written as nothing at all. It then counts as an empty sequence or mapping
where one is expected. -/
def isBlank (s : Scalar) : Bool := s.text.isEmpty && s.style = .plain

/-- Whether the scalar counts as absent where a value is optional; nothing if its tag says null and
its text does not. -/
def isAbsent? (s : Scalar) : Option Bool :=
  if s.style != .plain then some false
  else
    match s.tag with
    | none => some (s.text.isEmpty || looksNull s.text)
    | some t =>
      if t == CoreTag.null then (if looksNull s.text then some true else none) else some false

/-- The fault of a scalar where a value of another kind is expected. -/
def mismatch (s : Scalar) : ReadFault :=
  if s.meaning = .contradiction then .invalidValue else .invalidType

end Scalar

end Conformance
