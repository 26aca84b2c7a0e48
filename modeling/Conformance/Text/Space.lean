/-!
# White space

The characters with the Unicode property `White_Space`, and their removal at both ends of a text.
-/

namespace Conformance.Text

/-- Whether a character has the property `White_Space`. -/
def isWhiteSpace (c : Char) : Bool :=
  let n := c.toNat
  (9 ≤ n && n ≤ 13) || n == 0x20 || n == 0x85 || n == 0xA0 || n == 0x1680
    || (0x2000 ≤ n && n ≤ 0x200A) || n == 0x2028 || n == 0x2029 || n == 0x202F || n == 0x205F
    || n == 0x3000

/-- Removes white space at both ends. -/
def trim (cs : List Char) : List Char :=
  ((cs.dropWhile isWhiteSpace).reverse.dropWhile isWhiteSpace).reverse

/-- Trimming does not lengthen a text. -/
theorem length_trim_le (cs : List Char) : (trim cs).length ≤ cs.length := by
  calc (trim cs).length
      = ((cs.dropWhile isWhiteSpace).reverse.dropWhile isWhiteSpace).length := List.length_reverse
    _ ≤ (cs.dropWhile isWhiteSpace).reverse.length := (List.dropWhile_suffix _).length_le
    _ = (cs.dropWhile isWhiteSpace).length := List.length_reverse
    _ ≤ cs.length := (List.dropWhile_suffix _).length_le

end Conformance.Text
