import Conformance.Description.Loading
import Conformance.Document.Reading

/-!
# Loading documents

* `Conformance.Document.parse` – the document of a text;
* `Conformance.Document.load` – the document of a file, in the format that its name tells.
-/

namespace Conformance

/-- The wording of a faulty document text. -/
def ReadFault.documentReason (fault : ReadFault) : Format → String
  | .json => "invalid JSON: " ++ fault.reason
  | .yaml => "YAML parse error: " ++ fault.reason

/-- A document could not be loaded. -/
structure DocumentLoadError where
  /-- The path of the document. -/
  path : String
  /-- Why it could not be loaded. -/
  cause : LoadCause

/-- The wording of an error. -/
def DocumentLoadError.message (e : DocumentLoadError) : String :=
  let reason := match e.cause with
    | .unreadable error => "cannot read file: " ++ error.message
    | .unlistable error => "cannot read file: " ++ error.message
    | .malformed fault => fault.documentReason (FilePath.format e.path)
  "failed to load document " ++ e.path ++ ": " ++ reason

namespace Document

/-- The document of a text. -/
def parse (format : Format) (text : String) : Except ReadFault Document :=
  (SourceText.ofText format text).document

/-- The document of a file. -/
def load {m : Type → Type} [Monad m] (files : FileStore m) (path : String) :
    m (Except DocumentLoadError Document) := do
  match ← files.read path with
  | .error e => return .error ⟨path, .unreadable e⟩
  | .ok text =>
    match parse (FilePath.format path) text with
    | .error fault => return .error ⟨path, .malformed fault⟩
    | .ok d => return .ok d

end Document

end Conformance
