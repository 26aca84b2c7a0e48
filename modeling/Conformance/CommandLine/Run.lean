import Conformance.CommandLine.Arguments
import Conformance.CommandLine.Report
import Conformance.Schema.Export

/-!
# Running commands

* `Conformance.Command.run` – a command, with its settings;
* `Conformance.CommandLine.run` – a whole command line: what it prints, and its exit code. The code
  is zero when all is well, one when a document is not valid, and two when the command did not run.
-/

namespace Conformance

/-- What a command line leaves behind. -/
structure ExitReport where
  /-- The exit code. -/
  code : Nat
  /-- The text printed. -/
  output : String
deriving DecidableEq, Repr

namespace Report

/-- The exit code of reports: zero when all documents are valid. -/
def exitCode (reports : List Report) : Nat := if reports.all (·.valid) then 0 else 1

/-- The text of reports, as they are to be shown. -/
def render (reports : List Report) : ReportFormat → String
  | .text => text reports
  | .json => json reports ++ "\n"

end Report

section Run

variable {m : Type → Type} [Monad m]

/-- Runs a command. -/
def Command.run (files : FileStore m) (settings : Settings) :
    Command → m (Except CommandError ExitReport)
  | .schema source => do
    match ← source.build files settings with
    | .error e => return .error e
    | .ok s => return .ok ⟨0, s.toJsonSchema.toJson.pretty ++ "\n"⟩
  | .validate source format documents => do
    match ← source.build files settings with
    | .error e => return .error e
    | .ok s =>
      let reports ← Report.ofDocuments files s documents
      return .ok ⟨Report.exitCode reports, Report.render reports format⟩

namespace CommandLine

/-- The text that names the version. -/
def version : String := "docshape 0.1.0"

/-- The exit of a command line that did not run. -/
def failure : ExitReport := ⟨2, ""⟩

/-- Runs what a command line asks for. -/
def runRequest (files : FileStore m) : Request → m (Except CommandError ExitReport)
  | .version => return .ok ⟨0, version ++ "\n"⟩
  | .help => return .ok ⟨0, ""⟩
  | .run path command => do
    match ← Settings.loadOptional files path with
    | .error e => return .error (.settings e)
    | .ok settings => command.run files settings

/-- Runs a command line. -/
def run (files : FileStore m) (words : List String) : m ExitReport := do
  match Arguments.parse? words with
  | none => return failure
  | some request =>
    match ← runRequest files request with
    | .ok r => return r
    | .error _ => return failure

end CommandLine

end Run

end Conformance
