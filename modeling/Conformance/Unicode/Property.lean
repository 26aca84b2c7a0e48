import Conformance.Unicode.Age
import Conformance.Unicode.BinaryProperty
import Conformance.Unicode.GeneralCategory
import Conformance.Unicode.Script
import Conformance.Unicode.ScriptExtensions
import Conformance.Unicode.Segmentation

/-!
# Properties of code points

Properties are looked up by name: a name alone stands for a property that is there or not, for a
general category or for a script, in this order of precedence; a name with a value stands for the
code points for which the property has the value.

* `Conformance.Unicode.property?` – the code points with a property;
* `Conformance.Unicode.propertyValue?` – the code points with a value of a property;
* `Conformance.Unicode.alphabetic` and its neighbours – the properties that are used by themselves.
-/

namespace Conformance.Unicode

/-! ### General categories and their groups -/

/-- The categories of all letters. -/
def letterCategories : List String := ["lu", "ll", "lt", "lm", "lo"]

/-- The categories of all marks. -/
def markCategories : List String := ["mn", "mc", "me"]

/-- The categories of all numbers. -/
def numberCategories : List String := ["nd", "nl", "no"]

/-- The categories of all punctuation. -/
def punctuationCategories : List String := ["pc", "pd", "ps", "pe", "pi", "pf", "po"]

/-- The categories of all symbols. -/
def symbolCategories : List String := ["sm", "sc", "sk", "so"]

/-- The categories of all separators. -/
def separatorCategories : List String := ["zs", "zl", "zp"]

/-- The categories of everything else that is assigned. -/
def controlCategories : List String := ["cc", "cf", "co"]

/-- The categories of a group of them, by the name of the group. -/
def categoryGroup? (name : String) : Option (List String) :=
  if name == "l" || name == "letter" then some letterCategories
  else if name == "lc" || name == "casedletter" then some ["lu", "ll", "lt"]
  else if name == "m" || name == "mark" || name == "combiningmark" then some markCategories
  else if name == "n" || name == "number" then some numberCategories
  else if name == "p" || name == "punct" || name == "punctuation" then some punctuationCategories
  else if name == "s" || name == "symbol" then some symbolCategories
  else if name == "z" || name == "separator" then some separatorCategories
  else if name == "c" || name == "other" then some ("cn" :: controlCategories)
  else if name == "assigned" then
    some (letterCategories ++ markCategories ++ numberCategories ++ punctuationCategories
      ++ symbolCategories ++ separatorCategories ++ controlCategories)
  else none

/-- The code points of a general category or of a group of them. -/
def category? (name : String) : Option CodePoints :=
  if name == "any" then some .all
  else if name == "ascii" then some .ascii
  else
    match categoryGroup? name with
    | some names => some (unionOf generalCategories names)
    | none => findSet? generalCategories name

/-! ### Scripts and ages -/

/-- The code points used in a script. -/
def scriptExtension? (name : String) : Option CodePoints :=
  match findSet? scriptExtensions name with
  | some set => some set
  | none => findSet? scripts name

/-- The versions up to the one with a name, the oldest first. -/
def versionsUpTo? (name : String) : List NamedSet → Option (List NamedSet)
  | [] => none
  | v :: rest =>
    if v.names.contains name then some [v] else (versionsUpTo? name rest).map (v :: ·)

/-- The code points that a version of the standard knows. -/
def age? (name : String) : Option CodePoints :=
  (versionsUpTo? name versions).map fun known => known.flatMap NamedSet.codePoints

/-! ### Lookup -/

/-- The code points with a property, given by its name alone. -/
def property? (name : String) : Option CodePoints :=
  let name := looseName name
  match findSet? binaryProperties name with
  | some set => some set
  | none =>
    match category? name with
    | some set => some set
    | none => findSet? scripts name

/-- The code points for which a property has a value. -/
def propertyValue? (name value : String) : Option CodePoints :=
  let name := looseName name
  let value := looseName value
  if name == "gc" || name == "generalcategory" then category? value
  else if name == "sc" || name == "script" then findSet? scripts value
  else if name == "scx" || name == "scriptextensions" then scriptExtension? value
  else if name == "age" then age? value
  else if name == "gcb" || name == "graphemeclusterbreak" then findSet? graphemeBreaks value
  else if name == "wb" || name == "wordbreak" then findSet? wordBreaks value
  else if name == "sb" || name == "sentencebreak" then findSet? sentenceBreaks value
  else none

/-! ### Properties used by themselves -/

/-- The alphabetic code points. -/
def alphabetic : CodePoints := (findSet? binaryProperties "alphabetic").getD []

/-- The code points of all numbers. -/
def numeric : CodePoints := unionOf generalCategories numberCategories

/-- The decimal digits of all scripts. -/
def decimalDigit : CodePoints := unionOf generalCategories ["nd"]

/-- The code points of white space. -/
def whiteSpace : CodePoints := (findSet? binaryProperties "whitespace").getD []

/-- The code points of which words consist: alphabetic code points, marks, decimal digits,
connecting punctuation and the two joiners. -/
def wordCharacter : CodePoints :=
  alphabetic ++ unionOf generalCategories (markCategories ++ ["nd", "pc"])
    ++ (findSet? binaryProperties "joincontrol").getD []

end Conformance.Unicode
