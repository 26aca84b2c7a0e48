import Conformance.CommandLine.Run
import Conformance.Proofs.Checking.Violations
import Conformance.Proofs.Json.ReadBack
import Conformance.Proofs.Reports.LineFeeds

/-!
# Reports on a batch of documents

The reports on a batch, the exit code and the text all say the same, and no document can make the
text say something else. For what a finding names is declared by the schema
(`Conformance.SchemaSet.Declares`), and what it quotes from a document is one line. So a line of the
text belongs to the report it was written for: it is the header of a report, or it is indented.

* `Conformance.SchemaSet.declares_of_names` – findings name declared fields only;
* `Conformance.Violation.oneLine_text` – the wording of a violation is one line;
* `Conformance.Report.lines_text` – the lines of the text;
* `Conformance.Report.filter_headers` – the lines that look like headers are the headers;
* `Conformance.Report.batch_agrees` – what this means for the documents of files.
-/

namespace Conformance

/-! ### The names in findings -/

/-- **A finding names a field** if the field is on the way to its place, or is missing there. -/
def Finding.Names (x : Finding) (name : String) : Prop :=
  .field name ∈ x.location ∨ ∃ names, x.departure = .missing names ∧ name ∈ names

theorem Finding.names_under {x : Finding} {l : Location} {name : String} :
    (x.under l).Names name ↔ .field name ∈ l ∨ x.Names name := by
  unfold Names under
  rw [List.mem_append, or_assoc]

namespace SchemaSet

variable {set : SchemaSet} {id : NodeId} {d : Document} {x : Finding} {name : String}

/-- **A table declares a name** if a field of one of its objects has it. -/
def Declares (set : SchemaSet) (name : String) : Prop :=
  ∃ id o, set.node? id = some (.object o) ∧ ∃ f ∈ o.fields, f.name = name

theorem not_names_wrongKind {v : Document} : ¬(⟨[], .wrongKind v⟩ : Finding).Names name := by
  rintro (h | ⟨names, h, -⟩)
  · exact absurd h List.not_mem_nil
  · cases h

/-- **What a finding names is declared**, whatever keys the document has. -/
theorem declares_of_names (hx : x ∈ set.findings id [] d) (hname : x.Names name) :
    set.Declares name := by
  induction d using Document.induction_children generalizing id x with
  | step d ih =>
  rcases hnode : set.node? id with _ | (o | a | s)
  · rw [findings_of_none hnode] at hx
    exact absurd hx List.not_mem_nil
  · rcases d.eq_object_or with ⟨members, rfl⟩ | hne
    · rw [findings_object hnode] at hx
      rcases List.mem_append.mp hx with hx | hx
      · obtain ⟨f, hf, hx⟩ := List.mem_flatMap.mp hx
        have hdeclared : ∀ rest : Finding, (rest.under [.field f.name]).Names name →
            (rest.Names name → set.Declares name) → set.Declares name := by
          intro rest hunder hrest
          rcases Finding.names_under.mp hunder with h | h
          · obtain rfl : name = f.name := by simpa using h
            exact ⟨id, o, hnode, f, hf, rfl⟩
          · exact hrest h
        rcases mem_valueFindings.mp hx with ⟨-, -, rfl⟩ | ⟨v, hv, -, y, hy, rfl⟩
        · exact hdeclared ⟨[], .wrongKind .null⟩ hname
            fun h => absurd h not_names_wrongKind
        · exact hdeclared y hname fun h => ih v (.value hv) hy h
      · obtain ⟨-, rfl⟩ := mem_objectFindings.mp hx
        rcases hname with h | ⟨names, h, hmem⟩
        · exact absurd h List.not_mem_nil
        · cases h
          obtain ⟨f, hf, hfname, -, -⟩ := ObjectSchema.mem_missingFields.mp hmem
          exact ⟨id, o, hnode, f, hf, hfname⟩
    · rw [findings_object_of_ne hnode hne, List.mem_singleton] at hx
      rw [hx] at hname
      exact absurd hname not_names_wrongKind
  · rcases d.eq_array_or with ⟨items, rfl⟩ | hne
    · rw [findings_array hnode, elementFindings_eq_flatMap] at hx
      rcases List.mem_append.mp hx with hx | hx
      · obtain ⟨n, -, -, rfl⟩ := mem_arrayFindings.mp hx
        rcases hname with h | ⟨names, h, -⟩
        · exact absurd h List.not_mem_nil
        · cases h
      · obtain ⟨p, hp, hx⟩ := List.mem_flatMap.mp hx
        obtain ⟨-, y, hy, rfl⟩ := mem_itemFindings.mp hx
        rcases Finding.names_under.mp hname with h | h
        · simp at h
        · exact ih p.1 (.item (List.fst_mem_of_mem_zipIdx hp)) hy h
    · rw [findings_array_of_ne hnode hne, List.mem_singleton] at hx
      rw [hx] at hname
      exact absurd hname not_names_wrongKind
  · rw [findings_scalar hnode] at hx
    rcases mem_scalarFindings.mp hx with ⟨-, rfl⟩ | ⟨-, -, rfl⟩
    · rcases hname with h | ⟨names, h, -⟩
      · exact absurd h List.not_mem_nil
      · cases h
    · exact absurd hname not_names_wrongKind

end SchemaSet

/-! ### The wording of violations -/

open Text (OneLine oneLine_append)

namespace Violation

theorem oneLine_message {v : Violation}
    (hnames : ∀ names, v.payload = .fields names → ∀ name ∈ names, OneLine name) :
    OneLine v.message := by
  obtain ⟨path, kind, payload⟩ := v
  have hkind : OneLine kind.name := by cases kind <;> decide
  cases payload with
  | value d =>
    have hd : OneLine d.text := d.oneLine_text
    have hdkind : OneLine d.kind.name := by cases d.kind <;> decide
    cases kind <;> simp only [message, oneLine_append] <;>
      simp only [hd, hdkind, hkind, and_true, true_and] <;> decide
  | fields names =>
    have hjoin : OneLine (", ".intercalate names) :=
      Text.oneLine_intercalate (by decide) (hnames names rfl)
    cases kind <;> simp only [message, oneLine_append] <;>
      simp only [hjoin, hkind, and_true, true_and] <;> decide

/-- **The wording of a violation is one line**, if the path and the names in it are. -/
theorem oneLine_text {v : Violation} (hpath : OneLine v.path)
    (hnames : ∀ names, v.payload = .fields names → ∀ name ∈ names, OneLine name) :
    OneLine v.text := by
  have hplace : OneLine (if v.path.isEmpty then "(root)" else v.path) := by
    split
    · decide
    · exact hpath
  exact (hplace.append (by decide)).append (oneLine_message hnames)

end Violation

/-- What was found in a document is worded in one line, if the names in it are. -/
theorem Finding.oneLine_text {x : Finding} (h : ∀ name, x.Names name → OneLine name) :
    OneLine x.toViolation.text := by
  have hpath : OneLine x.location.path :=
    Location.oneLine_path fun name hname => h name (Or.inl hname)
  obtain ⟨l, departure⟩ := x
  cases departure with
  | missing names =>
    refine Violation.oneLine_text hpath fun names' heq name hname => h name (Or.inr ?_)
    cases heq
    exact ⟨names, rfl, hname⟩
  | patternFailure value => exact Violation.oneLine_text hpath fun names' heq => by cases heq
  | tooShort count => exact Violation.oneLine_text hpath fun names' heq => by cases heq
  | wrongKind value => exact Violation.oneLine_text hpath fun names' heq => by cases heq

/-! ### The lines on one document -/

/-- A text begins with another. -/
def Text.Begins (s start : String) : Prop := start.toList <+: s.toList

instance {s start : String} : Decidable (Text.Begins s start) :=
  inferInstanceAs (Decidable (start.toList <+: s.toList))

namespace Report

open Text (Begins)

variable {r : Report} {reports : List Report}

/-- **The header of a report**: what it says of the document as a whole. -/
def header (r : Report) : String :=
  match r.outcome with
  | .unreadable _ => "FAIL: " ++ (r.path ++ " (unreadable)")
  | .checked [] => "OK: " ++ r.path
  | .checked vs =>
    let noun := if vs.length = 1 then "error" else "errors"
    "FAIL: " ++ (r.path ++ " (" ++ Number.natText vs.length ++ " " ++ noun ++ ")")

/-- The lines below the header: one for each violation, or one with the reason. -/
def details (r : Report) : List String :=
  match r.outcome with
  | .unreadable reason => ["  " ++ reason]
  | .checked vs => vs.map fun v => "  " ++ v.text

/-- The line at the end, given how many documents are valid, and how many there are. -/
def summary (passed total : Nat) : String :=
  "Documents: " ++ Number.natText passed ++ "/" ++ Number.natText total ++ " passed"

theorem lines_eq : r.lines = r.header :: r.details := by
  obtain ⟨path, outcome⟩ := r
  cases outcome with
  | unreadable reason => simp [lines, header, details, String.append_assoc]
  | checked vs =>
    cases vs with
    | nil => rfl
    | cons v rest => simp [lines, header, details, String.append_assoc]

/-- **A header tells whether the document is valid.** -/
theorem begins_header_iff :
    (Begins r.header "OK: " ↔ r.valid = true) ∧ (Begins r.header "FAIL: " ↔ r.valid = false) := by
  have hok : ∀ t, Begins ("OK: " ++ t) "OK: " ∧ ¬Begins ("OK: " ++ t) "FAIL: " := by
    simp [Begins]
  have hfail : ∀ t, ¬Begins ("FAIL: " ++ t) "OK: " ∧ Begins ("FAIL: " ++ t) "FAIL: " := by
    simp [Begins]
  obtain ⟨path, outcome⟩ := r
  cases outcome with
  | unreadable reason => simp [header, valid, hfail]
  | checked vs =>
    cases vs with
    | nil => simp [header, valid, hok]
    | cons v rest => simp [header, valid, hfail]

/-- What stands below a header is indented. -/
theorem begins_of_mem_details {line : String} (h : line ∈ r.details) : Begins line "  " := by
  obtain ⟨path, outcome⟩ := r
  cases outcome with
  | unreadable reason =>
    obtain rfl := List.mem_singleton.mp h
    simp [Begins]
  | checked vs =>
    obtain ⟨v, -, rfl⟩ := List.mem_map.mp h
    simp [Begins]

theorem length_details :
    r.details.length = if r.loadError?.isSome then 1 else r.violations.length := by
  obtain ⟨path, outcome⟩ := r
  cases outcome <;> simp [details, loadError?, violations]

/-- The lines on a document are lines indeed, if the path, the reason and the violations are
worded in one line. -/
theorem oneLine_of_mem_lines (hpath : OneLine r.path)
    (hreason : ∀ reason, r.loadError? = some reason → OneLine reason)
    (hviolations : ∀ v ∈ r.violations, OneLine v.text) {line : String}
    (h : line ∈ r.header :: r.details) : OneLine line := by
  have hcount := Number.oneLine_natText r.violations.length
  obtain ⟨path, outcome⟩ := r
  rcases List.mem_cons.mp h with rfl | h
  · cases outcome with
    | unreadable reason => exact OneLine.append (by decide) (hpath.append (by decide))
    | checked vs =>
      cases vs with
      | nil => exact OneLine.append (by decide) hpath
      | cons v rest =>
        have hnoun : OneLine (if (v :: rest).length = 1 then "error" else "errors") := by
          split <;> decide
        have hstart : OneLine (path ++ " (") := hpath.append (by decide)
        have hmiddle : OneLine (path ++ " (" ++ Number.natText (v :: rest).length ++ " ") :=
          (hstart.append hcount).append (by decide)
        exact OneLine.append (by decide) ((hmiddle.append hnoun).append (by decide))
  · cases outcome with
    | unreadable reason =>
      obtain rfl := List.mem_singleton.mp h
      exact OneLine.append (by decide) (hreason reason rfl)
    | checked vs =>
      obtain ⟨v, hv, rfl⟩ := List.mem_map.mp h
      exact OneLine.append (by decide) (hviolations v hv)

/-! ### The text of a batch -/

theorem oneLine_summary (passed total : Nat) : OneLine (summary passed total) := by
  have hpassed := Number.oneLine_natText passed
  have htotal := Number.oneLine_natText total
  have hstart : OneLine ("Documents: " ++ Number.natText passed ++ "/") :=
    (OneLine.append (by decide) hpassed).append (by decide)
  exact (hstart.append htotal).append (by decide)

/-- **The lines of the text** are those on each document, an empty line, and the summary. -/
theorem lines_text (h : ∀ r ∈ reports, ∀ line ∈ r.header :: r.details, OneLine line) :
    Text.lines (text reports) = (reports.flatMap fun r => r.header :: r.details) ++
      ["", summary (reports.filter (·.valid)).length reports.length, ""] := by
  have hjoin : text reports = String.join (((reports.flatMap fun r => r.header :: r.details) ++
      ["", summary (reports.filter (·.valid)).length reports.length]).map (· ++ "\n")) := by
    unfold text
    simp only [lines_eq]
    rfl
  rw [hjoin, Text.lines_join, List.append_assoc]
  · rfl
  · intro line hline
    rcases List.mem_append.mp hline with hline | hline
    · obtain ⟨r, hr, hmem⟩ := List.mem_flatMap.mp hline
      exact h r hr line hmem
    · rcases List.mem_cons.mp hline with rfl | hline
      · decide
      · rw [List.mem_singleton.mp hline]
        exact oneLine_summary _ _

/-- Of the lines of a text, those with a property that only headers have are headers. -/
theorem filter_lines {p : String → Bool} {passed total : Nat}
    (hdetails : ∀ line, Begins line "  " → p line = false) (hempty : p "" = false)
    (hsummary : p (summary passed total) = false) :
    ((reports.flatMap fun r => r.header :: r.details) ++ ["", summary passed total, ""]).filter p =
      (reports.map header).filter p := by
  have hend : ["", summary passed total, ""].filter p = [] := by
    simp [hempty, hsummary]
  have hbody : ∀ r : Report, r.details.filter p = [] := by
    intro r
    refine List.filter_eq_nil_iff.mpr fun line hline => ?_
    simp [hdetails line (begins_of_mem_details hline)]
  rw [List.filter_append, hend, List.append_nil]
  induction reports with
  | nil => rfl
  | cons r rest ih =>
    rw [List.flatMap_cons, List.filter_append, ih, List.map_cons, List.filter_cons,
      List.filter_cons, hbody r]
    split
    · rfl
    · rfl

/-- **The lines that look like headers are the headers**, in order, and of the lines that look like
headers of valid documents there are as many as valid documents. -/
theorem filter_headers (reports : List Report) (passed total : Nat) :
    let ls := (reports.flatMap fun r => r.header :: r.details) ++ ["", summary passed total, ""]
    ls.filter (fun line => Begins line "OK: " ∨ Begins line "FAIL: ") = reports.map header ∧
      (ls.filter fun line => Begins line "OK: ").length = (reports.filter (·.valid)).length := by
  intro ls
  have hindented : ∀ line, Begins line "  " → ¬Begins line "OK: " ∧ ¬Begins line "FAIL: " := by
    rintro line ⟨rest, hrest⟩
    simp [Begins, ← hrest]
  have hsummary :
      ¬Begins (summary passed total) "OK: " ∧ ¬Begins (summary passed total) "FAIL: " := by
    simp [Begins, summary]
  constructor
  · rw [filter_lines (fun line h => by simp [hindented line h]) (by decide) (by simp [hsummary])]
    refine List.filter_eq_self.mpr fun line hline => ?_
    obtain ⟨r, -, rfl⟩ := List.mem_map.mp hline
    cases hvalid : r.valid <;> simp [begins_header_iff, hvalid]
  · rw [filter_lines (fun line h => by simp [hindented line h]) (by decide) (by simp [hsummary]),
      List.filter_map, List.length_map]
    refine congrArg List.length (List.filter_congr fun r _ => ?_)
    simp [begins_header_iff]

/-! ### The documents of files -/

variable {files : FileStore Id} {s : Schema} {paths : List String}

/-- The report on the document of a file, by what came of loading it. -/
theorem ofDocument_eq (path : String) :
    (ofDocument files s path).run = ⟨path, match (Document.load files path).run with
      | .error e => .unreadable e.message
      | .ok d => .checked (s.validate d)⟩ := by
  unfold ofDocument
  rw [Id.run_bind]
  cases (Document.load files path).run <;> rfl

theorem ofDocuments_eq :
    (ofDocuments files s paths).run = paths.map fun path => (ofDocument files s path).run :=
  List.idRun_mapM

theorem outcome_of_mem {r : Report} (h : r ∈ (ofDocuments files s paths).run) :
    r.path ∈ paths ∧ r = (ofDocument files s r.path).run := by
  rw [ofDocuments_eq] at h
  obtain ⟨path, hpath, rfl⟩ := List.mem_map.mp h
  rw [ofDocument_eq]
  exact ⟨hpath, (ofDocument_eq path).symm⟩

theorem valid_ofDocument_iff (path : String) :
    (ofDocument files s path).run.valid = true ↔
      ∃ d, (Document.load files path).run = .ok d ∧ s.validate d = [] := by
  rw [ofDocument_eq]
  cases (Document.load files path).run <;> simp [valid]

/-- What a report quotes is one line, if the names that the schema declares are. -/
theorem oneLine_of_mem_violations (hnames : ∀ name, s.set.Declares name → OneLine name)
    (path : String) : ∀ v ∈ (ofDocument files s path).run.violations, OneLine v.text := by
  rw [ofDocument_eq]
  cases (Document.load files path).run with
  | error e => simp [violations]
  | ok d =>
    intro v hv
    obtain ⟨x, hx, rfl⟩ := List.mem_map.mp hv
    exact Finding.oneLine_text fun name hname => hnames name (SchemaSet.declares_of_names hx hname)

/-- **The reports on a batch, the exit code and the text agree.** There is one report on each
document, in order; it is valid just if the document can be loaded and has no violations; and the
exit code is zero just if all are valid. If the paths, the reasons for failed loads and the names
that the schema declares are one line each, the text consists of the lines that the reports ask
for, with as many documents passed as there are lines that say so: no line looks like a header but
the headers, whatever the documents hold. -/
theorem batch_agrees (files : FileStore Id) (s : Schema) (paths : List String) :
    let reports := (ofDocuments files s paths).run
    reports.map (·.path) = paths ∧
      (∀ r ∈ reports,
        (∀ e, (Document.load files r.path).run = .error e → r.outcome = .unreadable e.message) ∧
        (∀ d, (Document.load files r.path).run = .ok d → r.outcome = .checked (s.validate d)) ∧
        (r.valid = true ↔ ∃ d, (Document.load files r.path).run = .ok d ∧ s.validate d = [])) ∧
      exitCode reports = (if ∀ r ∈ reports, r.valid = true then 0 else 1) ∧
      ((∀ path ∈ paths, OneLine path) →
        (∀ r ∈ reports, ∀ reason, r.loadError? = some reason → OneLine reason) →
        (∀ name, s.set.Declares name → OneLine name) →
        let ls := Text.lines (text reports)
        let passed := (ls.filter fun line => Begins line "OK: ").length
        ls = (reports.flatMap fun r => r.header :: r.details) ++
            ["", summary passed reports.length, ""] ∧
          (∀ r ∈ reports,
            r.details.length = (if r.loadError?.isSome then 1 else r.violations.length) ∧
            ∀ line ∈ r.details, Begins line "  ") ∧
          ls.filter (fun line => Begins line "OK: " ∨ Begins line "FAIL: ") =
            reports.map header) := by
  intro reports
  refine ⟨?_, fun r hr => ?_, ?_, ?_⟩
  · have hpath : ∀ path, (ofDocument files s path).run.path = path := by
      intro path
      rw [ofDocument_eq]
    rw [show reports = _ from ofDocuments_eq, List.map_map]
    simp [Function.comp_def, hpath]
  · obtain ⟨-, hreport⟩ := outcome_of_mem hr
    refine ⟨fun e he => ?_, fun d hd => ?_, ?_⟩
    · rw [hreport, ofDocument_eq, he]
    · rw [hreport, ofDocument_eq, hd]
    · rw [hreport, valid_ofDocument_iff, ← hreport]
  · unfold exitCode
    simp [List.all_eq_true]
  · intro hpaths hreasons hnames ls passed
    have hlines : ∀ r ∈ reports, ∀ line ∈ r.header :: r.details, OneLine line := by
      intro r hr line hline
      obtain ⟨hpath, hreport⟩ := outcome_of_mem hr
      refine oneLine_of_mem_lines (hpaths r.path hpath) (hreasons r hr) ?_ hline
      rw [hreport]
      exact oneLine_of_mem_violations hnames r.path
    have hls := lines_text hlines
    obtain ⟨hheaders, hpassed⟩ := filter_headers reports
      (reports.filter (·.valid)).length reports.length
    rw [← hls] at hheaders hpassed
    refine ⟨?_, fun r hr => ⟨length_details, fun line hline => begins_of_mem_details hline⟩,
      hheaders⟩
    rw [show passed = _ from hpassed]
    exact hls

/-- Files of which one holds a value that quotes a header, and one cannot be read. -/
def forgingFiles : FileStore Id where
  read path :=
    if path = "a.json" then .ok "\x7b\"x\":[\"\\nOK: b.json\"]\x7d"
    else if path = "b.json" then .ok "\x7b\"\\nOK: b.json\":true\x7d"
    else .error .notFound
  list _ := .error .notFound
  isDirectory _ := false
  isFile _ := true

/-- A schema for objects with a text. -/
def forgingSchema : Schema :=
  ⟨⟨[.object ⟨"T", [⟨"x", 1, false, true⟩]⟩, .scalar ⟨.string, none⟩], [("T", 0)]⟩, 0⟩

theorem reports_forging :
    (ofDocuments forgingFiles forgingSchema ["a.json", "b.json", "c.json"]).run =
      [⟨"a.json", .checked [.typeMismatch "x" (.array [.string "\nOK: b.json"])]⟩,
        ⟨"b.json", .checked []⟩,
        ⟨"c.json", .unreadable (DocumentLoadError.message ⟨"c.json", .unreadable .notFound⟩)⟩] := by
  have hquote : (Document.load forgingFiles "a.json").run =
      .ok (.object [("x", .array [.string "\nOK: b.json"])]) :=
    Document.load_text ⟨List.pairwise_singleton _ _, ⟨⟨trivial, trivial⟩, trivial⟩⟩
      ⟨⟨trivial, trivial⟩, trivial⟩ (by decide) rfl rfl
  have hkey : (Document.load forgingFiles "b.json").run =
      .ok (.object [("\nOK: b.json", .bool true)]) :=
    Document.load_text ⟨List.pairwise_singleton _ _, ⟨trivial, trivial⟩⟩ ⟨trivial, trivial⟩
      (by decide) rfl rfl
  have hmissing : (Document.load forgingFiles "c.json").run =
      .error ⟨"c.json", .unreadable .notFound⟩ := rfl
  have hfound : forgingSchema.validate (.object [("x", .array [.string "\nOK: b.json"])]) =
      [.typeMismatch "x" (.array [.string "\nOK: b.json"])] := by
    with_unfolding_all rfl
  have hnone : forgingSchema.validate (.object [("\nOK: b.json", .bool true)]) = [] := by
    with_unfolding_all rfl
  simp only [ofDocuments_eq, List.map_cons, List.map_nil, ofDocument_eq, hquote, hkey, hmissing,
    hfound, hnone]

/-- The value and the key that quote a header do not become one. -/
theorem batch_agrees_forging :
    let reports := (ofDocuments forgingFiles forgingSchema ["a.json", "b.json", "c.json"]).run
    (∀ path ∈ ["a.json", "b.json", "c.json"], OneLine path) ∧
      (∀ r ∈ reports, ∀ reason, r.loadError? = some reason → OneLine reason) ∧
      (∀ name, forgingSchema.set.Declares name → OneLine name) ∧
      (Text.lines (text reports)).filter (fun line => Begins line "OK: " ∨ Begins line "FAIL: ") =
        ["FAIL: a.json (1 error)", "OK: b.json", "FAIL: c.json (unreadable)"] := by
  have hpaths : ∀ path ∈ ["a.json", "b.json", "c.json"], OneLine path := by decide
  have hreasons : ∀ r ∈ (ofDocuments forgingFiles forgingSchema ["a.json", "b.json", "c.json"]).run,
      ∀ reason, r.loadError? = some reason → OneLine reason := by
    rw [reports_forging]
    intro r hr reason hreason
    simp only [List.mem_cons, List.not_mem_nil, or_false] at hr
    rcases hr with rfl | rfl | rfl
    · cases hreason
    · cases hreason
    · obtain rfl := Option.some.inj hreason
      decide
  have hnames : ∀ name, forgingSchema.set.Declares name → OneLine name := by
    rintro name ⟨id, o, hnode, f, hf, rfl⟩
    match id with
    | 0 =>
      obtain rfl := Node.object.inj (Option.some.inj hnode)
      obtain rfl := List.mem_singleton.mp hf
      decide
    | 1 => cases hnode
    | id + 2 => cases hnode
  obtain ⟨-, -, -, h⟩ := batch_agrees forgingFiles forgingSchema ["a.json", "b.json", "c.json"]
  obtain ⟨-, -, hheaders⟩ := h hpaths hreasons hnames
  refine ⟨hpaths, hreasons, hnames, hheaders.trans ?_⟩
  rw [reports_forging]
  decide

end Report

end Conformance
