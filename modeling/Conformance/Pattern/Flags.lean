import Conformance.Text.Space

/-!
# Flags of patterns

Flags change how the rest of a group is read and matched. A letter turns a flag on, a letter behind
the hyphen turns it off; the hyphen stands at most once, with a letter behind it, and no letter
stands twice.

* `Conformance.PatternFlags` – the flags in force at a place of a pattern;
* `Conformance.PatternFlags.read?` – the flags between `(?` and what ends them;
* `Conformance.PatternFlags.skipBlanks` – what a pattern written with free spacing passes over.
-/

namespace Conformance

/-- A flag. -/
inductive PatternFlag where
  /-- Letters match in either case. -/
  | anyCase
  /-- Line ends count for ends of the text. -/
  | multiLine
  /-- The dot matches line ends too. -/
  | dotAll
  /-- Repetitions are as short as possible. Whether there is a match does not depend on it. -/
  | short
  /-- Sets and conditions are those of all scripts. -/
  | unicode
  /-- Carriage returns are part of line ends. -/
  | returns
  /-- White space and comments may stand anywhere. -/
  | freeSpacing
deriving DecidableEq, Repr

/-- The flags in force at a place of a pattern. -/
structure PatternFlags where
  /-- Letters match in either case. -/
  anyCase : Bool
  /-- Line ends count for ends of the text. -/
  multiLine : Bool
  /-- The dot matches line ends too. -/
  dotAll : Bool
  /-- Sets and conditions are those of all scripts. -/
  unicode : Bool
  /-- Carriage returns are part of line ends. -/
  returns : Bool
  /-- White space and comments may stand anywhere. -/
  freeSpacing : Bool
deriving DecidableEq, Repr

namespace PatternFlag

/-- The flag of a letter. -/
def ofLetter? : Char → Option PatternFlag
  | 'i' => some anyCase
  | 'm' => some multiLine
  | 's' => some dotAll
  | 'U' => some short
  | 'u' => some unicode
  | 'R' => some returns
  | 'x' => some freeSpacing
  | _ => none

end PatternFlag

namespace PatternFlags

/-- The flags at the start of a pattern. -/
def initial : PatternFlags := ⟨false, false, false, true, false, false⟩

/-- The flags with one of them turned on or off. -/
def set (flags : PatternFlags) (flag : PatternFlag) (on : Bool) : PatternFlags :=
  match flag with
  | .anyCase => { flags with anyCase := on }
  | .multiLine => { flags with multiLine := on }
  | .dotAll => { flags with dotAll := on }
  | .short => flags
  | .unicode => { flags with unicode := on }
  | .returns => { flags with returns := on }
  | .freeSpacing => { flags with freeSpacing := on }

/-- What ends a list of flags. -/
inductive ListEnd where
  /-- The closing parenthesis: the flags hold for the rest of the group around them. -/
  | close
  /-- The colon: the flags hold for the group that begins here. -/
  | colon
deriving DecidableEq, Repr

/-- A list of flags, up to and including what ends it. -/
structure FlagList where
  /-- The flags with the change that the list makes. -/
  flags : PatternFlags
  /-- Whether the list changes nothing because it is empty. -/
  isEmpty : Bool
  /-- What ends the list. -/
  listEnd : ListEnd

/-- Reads the letters and the hyphen of a list of flags. Given are the flags so far, the letters
met, whether the hyphen was met, and whether it was the last thing met. -/
def readList? (flags : PatternFlags) (met : List PatternFlag) (off hyphenLast : Bool) :
    List Char → Option (FlagList × List Char)
  | [] => none
  | ')' :: rest =>
    if hyphenLast then none else some (⟨flags, met.isEmpty && !off, .close⟩, rest)
  | ':' :: rest =>
    if hyphenLast then none else some (⟨flags, met.isEmpty && !off, .colon⟩, rest)
  | '-' :: rest => if off then none else readList? flags met true true rest
  | c :: rest =>
    match PatternFlag.ofLetter? c with
    | none => none
    | some flag =>
      if met.contains flag then none
      else readList? (flags.set flag !off) (flag :: met) off false rest

/-- The list of flags at the beginning of a text, and the rest of the text. -/
def read? (flags : PatternFlags) (cs : List Char) : Option (FlagList × List Char) :=
  readList? flags [] false false cs

/-! ### Free spacing -/

/-- Drops white space and comments; a comment runs from a number sign to the end of the line. Given
is whether the text starts inside a comment. -/
def dropBlanks : Bool → List Char → List Char
  | _, [] => []
  | true, c :: rest => dropBlanks (c != '\n') rest
  | false, c :: rest =>
    if Text.isWhiteSpace c then dropBlanks false rest
    else if c == '#' then dropBlanks true rest
    else c :: rest

/-- Drops what may stand anywhere: white space and comments if spacing is free, else nothing. -/
def skipBlanks (flags : PatternFlags) (cs : List Char) : List Char :=
  if flags.freeSpacing then dropBlanks false cs else cs

end PatternFlags

end Conformance
