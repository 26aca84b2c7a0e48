import Conformance.Json.Text
import Conformance.Yaml.Text

/-!
# Reading text of either format
-/

namespace Conformance.SourceText

/-- Reads a text in a format. -/
def ofText (format : Format) (text : String) : SourceText :=
  match format with
  | .json => Json.readText text
  | .yaml => Yaml.readText text

end Conformance.SourceText
