/-!
# The order of texts

Texts are ordered by their first differing code point, a proper beginning before its extensions.
This is also the order of their UTF-8 bytes.
-/

namespace Conformance.Text

/-- Whether the first list of characters comes strictly before the second. -/
def charsBefore : List Char → List Char → Bool
  | _, [] => false
  | [], _ :: _ => true
  | a :: as, b :: bs => a.toNat < b.toNat || (a == b && charsBefore as bs)

/-- Whether the first text comes strictly before the second. -/
def before (a b : String) : Bool := charsBefore a.toList b.toList

end Conformance.Text
