import Conformance.Number.Basic

/-!
# JSON values and their text

A JSON value as it is written: the members of an object have an order, and a name may come twice.

* `Conformance.Json.compact` – the text without any space;
* `Conformance.Json.pretty` – the text over several lines, two spaces to a level.
-/

namespace Conformance

/-- A JSON value, its members in the order in which they are written. -/
inductive Json where
  /-- The null value. -/
  | null
  /-- A truth value. -/
  | bool (b : Bool)
  /-- A number. -/
  | number (n : Number)
  /-- A text. -/
  | string (s : String)
  /-- An array. -/
  | array (items : List Json)
  /-- An object. -/
  | object (members : List (String × Json))
deriving Inhabited

namespace Json

/-! ### Text in quotes -/

/-- A hexadecimal digit, lower case. -/
def hexDigit (n : Nat) : Char := Nat.digitChar (n % 16)

/-- The written form of one character inside quotes: the quote, the backslash and the control
characters are escaped, everything else stands for itself. -/
def escapeChar (c : Char) : List Char :=
  if c == '"' then ['\\', '"']
  else if c == '\\' then ['\\', '\\']
  else if c.toNat == 8 then ['\\', 'b']
  else if c.toNat == 12 then ['\\', 'f']
  else if c == '\n' then ['\\', 'n']
  else if c == '\r' then ['\\', 'r']
  else if c == '\t' then ['\\', 't']
  else if c.toNat < 32 then ['\\', 'u', '0', '0', hexDigit (c.toNat / 16), hexDigit c.toNat]
  else [c]

/-- A text in quotes. -/
def quote (s : String) : String :=
  String.ofList ('"' :: s.toList.flatMap escapeChar ++ ['"'])

/-! ### Whole values -/

mutual

/-- The text of a value without any space. -/
def compact : Json → String
  | .null => "null"
  | .bool b => if b then "true" else "false"
  | .number n => n.text
  | .string s => quote s
  | .array items => "[" ++ compactItems items ++ "]"
  | .object members => "\x7b" ++ compactMembers members ++ "\x7d"

/-- The items of an array, separated by commas. -/
def compactItems : List Json → String
  | [] => ""
  | [v] => compact v
  | v :: rest => compact v ++ "," ++ compactItems rest

/-- The members of an object, separated by commas. -/
def compactMembers : List (String × Json) → String
  | [] => ""
  | [(k, v)] => quote k ++ ":" ++ compact v
  | (k, v) :: rest => quote k ++ ":" ++ compact v ++ "," ++ compactMembers rest

end

/-- The start of a line at a depth of nesting. -/
def indent (depth : Nat) : String := String.ofList ('\n' :: List.replicate (2 * depth) ' ')

mutual

/-- The text of a value over several lines; `depth` is the nesting around it. Empty arrays and
objects stay on one line. -/
def prettyAt (depth : Nat) : Json → String
  | .array (v :: rest) =>
    "[" ++ indent (depth + 1) ++ prettyAt (depth + 1) v ++ prettyItems (depth + 1) rest
      ++ indent depth ++ "]"
  | .object ((k, v) :: rest) =>
    "\x7b" ++ indent (depth + 1) ++ quote k ++ ": " ++ prettyAt (depth + 1) v
      ++ prettyMembers (depth + 1) rest ++ indent depth ++ "\x7d"
  | .array [] => "[]"
  | .object [] => "\x7b\x7d"
  | .null => "null"
  | .bool b => if b then "true" else "false"
  | .number n => n.text
  | .string s => quote s

/-- The items of an array after its first, each after a comma and on a line of its own. -/
def prettyItems (depth : Nat) : List Json → String
  | [] => ""
  | v :: rest => "," ++ indent depth ++ prettyAt depth v ++ prettyItems depth rest

/-- The members of an object after its first, each after a comma and on a line of its own. -/
def prettyMembers (depth : Nat) : List (String × Json) → String
  | [] => ""
  | (k, v) :: rest =>
    "," ++ indent depth ++ quote k ++ ": " ++ prettyAt depth v ++ prettyMembers depth rest

end

/-- The text of a value over several lines. -/
def pretty (v : Json) : String := prettyAt 0 v

end Json

end Conformance
