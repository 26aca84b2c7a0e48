import Conformance.Yaml.ScalarText
import Conformance.Yaml.Token

/-!
# Tags, anchors and directives

The tokens that say something about a node or a document without being part of it.

* `Conformance.Yaml.readTag?` – a tag: in full between angle brackets, or a handle and the rest;
* `Conformance.Yaml.readAnchorName?` – the name of an anchor or a reference;
* `Conformance.Yaml.readDirective?` – the version of the language, or the handle of some tags.
-/

namespace Conformance.Yaml

/-! ### Addresses -/

/-- The value of an octet that is written as a percent sign and two hexadecimal digits. -/
def readOctet? : List Char → Option (Nat × List Char)
  | '%' :: a :: b :: rest => do
    let a ← hexDigit? a
    let b ← hexDigit? b
    return (a * 16 + b, rest)
  | _ => none

/-- Reads so many octets that continue a character, onto the bits so far. -/
def readContinuation? : Nat → Nat → List Char → Option (Nat × List Char)
  | 0, value, cs => some (value, cs)
  | k + 1, value, cs => do
    let (octet, rest) ← readOctet? cs
    if octet / 64 == 2 then readContinuation? k (value * 64 + octet % 64) rest else none

/-- Reads a character that is written by the octets of its UTF-8 form. -/
def readOctets? (cs : List Char) : Option (Char × List Char) := do
  let (octet, rest) ← readOctet? cs
  let (value, rest) ←
    if octet < 128 then some (octet, rest)
    else if octet / 32 == 6 then readContinuation? 1 (octet % 32) rest
    else if octet / 16 == 14 then readContinuation? 2 (octet % 16) rest
    else if octet / 8 == 30 then readContinuation? 3 (octet % 8) rest
    else none
  return (Char.ofNat value, rest)

/-- Whether a character may stand in an address; some may only if the address is given in full. -/
def isAddressChar (full : Bool) (c : Char) : Bool :=
  isWordChar c || ";/?:@&=+$.%!~*'()".toList.contains c
    || (full && (c == ',' || c == '[' || c == ']'))

/-- Reads an address up to the first character that may not stand in it. The first argument bounds
the number of characters. -/
def readAddress? (full : Bool) : Nat → List Char → Option (List Char × List Char)
  | k + 1, c :: rest =>
    if c == '%' then do
      let (d, rest) ← readOctets? (c :: rest)
      let (address, rest) ← readAddress? full k rest
      return (d :: address, rest)
    else if isAddressChar full c then
      (readAddress? full k rest).map fun (address, rest) => (c :: address, rest)
    else some ([], c :: rest)
  | _, cs => some ([], cs)

/-- Reads an address that is not empty. -/
def readSomeAddress? (full : Bool) (cs : List Char) : Option (List Char × List Char) :=
  match readAddress? full cs.length cs with
  | some (c :: address, rest) => some (c :: address, rest)
  | _ => none

/-! ### Tags -/

/-- The part of a tag up to its second exclamation mark, or as far as a word goes. -/
def readHandle? : List Char → Option (List Char × List Char)
  | '!' :: rest =>
    let word := rest.takeWhile isWordChar
    match rest.dropWhile isWordChar with
    | '!' :: behind => some ('!' :: word ++ ['!'], behind)
    | behind => some ('!' :: word, behind)
  | _ => none

/-- Whether a text is a handle between two exclamation marks. -/
def isFullHandle (handle : List Char) : Bool := 2 ≤ handle.length && handle.getLast? == some '!'

/-- The handle and the rest of a tag. Without a second exclamation mark, the handle is the first
one; an exclamation mark alone has no handle. -/
def readTagParts? (cs : List Char) : Option (List Char × List Char × List Char) :=
  match cs with
  | '!' :: '<' :: rest => do
    match ← readSomeAddress? true rest with
    | (address, '>' :: rest) => return ([], address, rest)
    | _ => none
  | _ => do
    let (handle, rest) ← readHandle? cs
    if isFullHandle handle then
      let (address, rest) ← readSomeAddress? false rest
      return (handle, address, rest)
    else
      let (address, rest) ← readAddress? false rest.length rest
      match handle.drop 1 ++ address with
      | [] => return ([], ['!'], rest)
      | suffix => return (['!'], suffix, rest)

/-- Reads a tag, behind which there has to be space, or a comma inside of brackets. -/
def readTag? (inFlow : Bool) (c : Cursor) : Option (Token × Cursor) := do
  let (handle, suffix, rest) ← readTagParts? c.rest
  if startsWithSpace rest || (inFlow && rest.head? == some ',') then
    return (.tag (String.ofList handle) (String.ofList suffix), c.advanceTo rest)
  else none

/-! ### Anchors -/

/-- Whether a text may follow the name of an anchor. -/
def mayFollowAnchor (cs : List Char) : Bool :=
  startsWithSpace cs || cs.head?.any fun c => "?:,]\x7d%@\x60".toList.contains c

/-- Reads the name of an anchor or a reference behind its sign. -/
def readAnchorName? (c : Cursor) : Option (String × Cursor) :=
  let cs := c.rest.drop 1
  let name := cs.takeWhile isWordChar
  let rest := cs.dropWhile isWordChar
  if !name.isEmpty && mayFollowAnchor rest then some (String.ofList name, c.advanceTo rest)
  else none

/-! ### Directives -/

/-- Reads a number of up to nine digits. -/
def readVersionNumber? (cs : List Char) : Option (Nat × List Char) :=
  let digits := cs.takeWhile Char.isDigit
  if digits.isEmpty || 9 < digits.length then none
  else some (digits.foldl (fun n d => n * 10 + (d.toNat - 48)) 0, cs.dropWhile Char.isDigit)

/-- Reads the version of the language. -/
def readVersion? (cs : List Char) : Option (Token × List Char) := do
  let (major, rest) ← readVersionNumber? (cs.dropWhile isBlank)
  match rest with
  | '.' :: rest =>
    let (minor, rest) ← readVersionNumber? rest
    return (.version major minor, rest)
  | _ => none

/-- Reads a handle and the address it stands for. -/
def readTagHandle? (cs : List Char) : Option (Token × List Char) := do
  let (handle, rest) ← readHandle? (cs.dropWhile isBlank)
  if !(isFullHandle handle || handle == ['!']) then none
  if !rest.head?.any isBlank then none
  let (address, rest) ← readSomeAddress? true (rest.dropWhile isBlank)
  if startsWithSpace rest then
    return (.tagHandle (String.ofList handle) (String.ofList address), rest)
  else none

/-- Reads a directive, from its percent sign to the end of its line. -/
def readDirective? (c : Cursor) : Option (Token × Cursor) := do
  let cs := c.rest.drop 1
  let name := String.ofList (cs.takeWhile isWordChar)
  let rest := cs.dropWhile isWordChar
  if !startsWithSpace rest then none
  let (token, rest) ←
    if name == "YAML" then readVersion? rest
    else if name == "TAG" then readTagHandle? rest
    else none
  let c := (c.advanceTo rest).skipWhile isBlank
  let c := if c.rest.head? == some '#' then c.lineEnd else c
  if startsWithBreak c.rest then
    return (token, if c.rest.isEmpty then c else c.nextLine)
  else none

end Conformance.Yaml
