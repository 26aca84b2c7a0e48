import Conformance.Files.Tree
import Conformance.Main
import Conformance.Proofs.Generation.Evaluation
import Conformance.Proofs.Generation.Steps
import Conformance.Proofs.Generation.Growth
import Conformance.Proofs.Entries
import Conformance.Proofs.Generation.Depiction
import Conformance.Proofs.Generation.Runs
import Conformance.Proofs.Checking.Walk
import Conformance.Proofs.Documents
import Conformance.Proofs.Interpretation
import Conformance.Proofs.Checking.Order
import Conformance.Proofs.Checking.Violations
import Conformance.Proofs.Checking.Shown
import Conformance.Proofs.Checking.Reports
import Conformance.Proofs.JsonSchema.Definitions
import Conformance.Proofs.JsonSchema.Meaning
import Conformance.Proofs.JsonSchema.Rendering
import Conformance.Proofs.JsonSchema.Acceptance
import Conformance.Proofs.JsonSchema.Validity
import Conformance.Proofs.Generation.Failures
import Conformance.Proofs.Generation.Sharing
import Conformance.Proofs.Completeness
import Conformance.Proofs.Generation.Survey
import Conformance.Proofs.Generation.Outcomes
import Conformance.Proofs.JsonSchema.Agreement
import Conformance.Proofs.Generation.History
import Conformance.Proofs.Checking.Strictness
import Conformance.Proofs.Checking.Nulls
import Conformance.Proofs.TypeExpr.Spelling
import Conformance.Proofs.TypeExpr.WrittenForm
import Conformance.Proofs.Reports.LineFeeds
import Conformance.Proofs.Reports.Batch
import Conformance.Proofs.Pattern.Readers
import Conformance.Proofs.Pattern.Spans
import Conformance.Proofs.Pattern.Escapes
import Conformance.Proofs.Pattern.FullMatch
import Conformance.Proofs.SortedEntries
import Conformance.Proofs.Generation.Reachability
import Conformance.Proofs.Generation.Extent
import Conformance.Proofs.Generation.Descents
import Conformance.Proofs.JsonSchema.References
import Conformance.Proofs.JsonSchema.Agenda
import Conformance.Proofs.JsonSchema.Pointers
import Conformance.Proofs.Generation.Stability
import Conformance.Proofs.Places
import Conformance.Proofs.Checking.Locality
import Conformance.Proofs.Checking.Overlooked
import Conformance.Proofs.PathTexts
import Conformance.Proofs.Checking.Addresses
import Conformance.Proofs.Readings
import Conformance.Proofs.Json.Tokens
import Conformance.Proofs.Json.CompactText
import Conformance.Proofs.Json.Decoding
import Conformance.Proofs.Json.Trees
import Conformance.Proofs.Json.ReadBack
import Conformance.Proofs.Description.Registrations
import Conformance.Proofs.Description.WrittenForm
import Conformance.Proofs.Description.Annotations
import Conformance.Proofs.Description.RoundTrip
import Conformance.Proofs.Description.Directories
