import Conformance.Document.Loading
import Conformance.Schema.Validation

/-!
# Reports on documents

Each document of a batch gets a report: it is valid, it has violations, or it could not be loaded.
What is wrong with one document does not keep the others from being checked.

* `Conformance.Report.ofDocuments` – the reports of a batch;
* `Conformance.Report.text`, `Conformance.Report.json` – the two ways they are shown.
-/

namespace Conformance

/-- What was found in a document. -/
inductive Outcome where
  /-- The document was checked, with these violations. -/
  | checked (violations : List Violation)
  /-- The document could not be loaded. -/
  | unreadable (reason : String)

/-- The report on one document. -/
structure Report where
  /-- The path of the document. -/
  path : String
  /-- What was found. -/
  outcome : Outcome

namespace Report

/-- The violations found; an unreadable document has none. -/
def violations (r : Report) : List Violation :=
  match r.outcome with
  | .checked vs => vs
  | .unreadable _ => []

/-- Why the document could not be loaded, if it could not. -/
def loadError? (r : Report) : Option String :=
  match r.outcome with
  | .checked _ => none
  | .unreadable reason => some reason

/-- Whether the document was loaded and has no violations. -/
def valid (r : Report) : Bool :=
  match r.outcome with
  | .checked vs => vs.isEmpty
  | .unreadable _ => false

/-- The report on the document of a file. -/
def ofDocument {m : Type → Type} [Monad m] (files : FileStore m) (s : Schema) (path : String) :
    m Report := do
  match ← Document.load files path with
  | .error e => return ⟨path, .unreadable e.message⟩
  | .ok d => return ⟨path, .checked (s.validate d)⟩

/-- The reports on the documents of files, in their order. -/
def ofDocuments {m : Type → Type} [Monad m] (files : FileStore m) (s : Schema)
    (paths : List String) : m (List Report) := paths.mapM (ofDocument files s)

/-- The lines on one document. -/
def lines (r : Report) : List String :=
  match r.outcome with
  | .unreadable reason => ["FAIL: " ++ r.path ++ " (unreadable)", "  " ++ reason]
  | .checked [] => ["OK: " ++ r.path]
  | .checked vs =>
    let noun := if vs.length == 1 then "error" else "errors"
    ("FAIL: " ++ r.path ++ " (" ++ Number.natText vs.length ++ " " ++ noun ++ ")")
      :: vs.map fun v => "  " ++ v.text

/-- All reports as lines of text, with a summary at the end. -/
def text (reports : List Report) : String :=
  let passed := (reports.filter (·.valid)).length
  let summary := "Documents: " ++ Number.natText passed ++ "/" ++ Number.natText reports.length
    ++ " passed"
  String.join ((reports.flatMap (·.lines) ++ ["", summary]).map (· ++ "\n"))

/-- A report as a JSON value. -/
def toJson (r : Report) : Json :=
  .object ([("path", .string r.path), ("valid", .bool r.valid),
      ("errors", .array (r.violations.map (·.toJson)))]
    ++ (r.loadError?.map fun reason => ("load_error", Json.string reason)).toList)

/-- All reports as a JSON text. -/
def json (reports : List Report) : String := (Json.array (reports.map toJson)).pretty

end Report

end Conformance
