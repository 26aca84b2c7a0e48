import Conformance.Proofs.Checking.Locality
import Conformance.Proofs.Checking.Order
import Conformance.Proofs.PathTexts

/-!
# Where a violation leads

A violation shows a path and not a place, and so whoever reads it has to find the node that it is
about. Where the names of all fields are plain (`Conformance.Segment.PlainName`), the path leads
there: it is that of one place only, something stands at that place, and it is what the violation
says (`Conformance.Violation.TellsOf`). No other violation has the same path, since no two are found
at one place.

* `Conformance.SchemaSet.plain_of_mem_findings` – the places of findings are plain;
* `Conformance.SchemaSet.exists_at?_of_mem_findings` – what stands there;
* `Conformance.Generator.paths_lead_back` – what this means for the paths of violations.
-/

namespace Conformance

/-- **A violation tells of a node**: the node is the value that it carries, or an array of the
length that it carries, or an object without the fields that it names. -/
def Violation.TellsOf (v : Violation) (node : Document) : Prop :=
  match v.kind, v.payload with
  | .typeMismatch, .value d => node = d
  | .pattern, .value d => node = d
  | .minLength, .value d => ∃ items, node = .array items ∧ d = .ofCount items.length
  | .required, .fields names =>
    ∃ members, node = .object members ∧ ∀ name ∈ names, Keyed.find? name members = none
  | _, _ => False

/-- A violation has the path of the place where it was found. -/
theorem Finding.path_toViolation (x : Finding) : x.toViolation.path = x.location.path := by
  obtain ⟨l, departure⟩ := x
  cases departure with
  | _ => rfl

namespace SchemaSet

variable {set : SchemaSet} {id id' : NodeId} {l : Location} {d d' : Document} {x : Finding}
variable {r : Registry} {m : Mode}

/-- The names of the fields of a table are plain, if those of the registry are. -/
theorem plainName_of_mem (hs : set.Sound r m) (hr : ∀ f, r.Describes f → Segment.PlainName f.name)
    {o : ObjectSchema} (node : set.node? id = some (.object o)) {f : FieldSchema}
    (declared : f ∈ o.fields) : Segment.PlainName f.name := by
  obtain ⟨description, hdescribes, hstands⟩ := hs.exists_describes node declared
  rw [hstands.name]
  exact hr description hdescribes

theorem Visits.plain (hs : set.Sound r m) (hr : ∀ f, r.Describes f → Segment.PlainName f.name)
    (h : set.Visits id d id' l d') : l.Plain := by
  induction h with
  | here => exact List.forall_mem_nil _
  | field node declared _ _ _ ih =>
    exact List.forall_mem_cons.mpr ⟨plainName_of_mem hs hr node declared, ih⟩
  | element _ _ _ _ ih => exact List.forall_mem_cons.mpr ⟨trivial, ih⟩

/-- **The places of findings are plain**, if the names of the registry are. -/
theorem plain_of_mem_findings (hs : set.Sound r m)
    (hr : ∀ f, r.Describes f → Segment.PlainName f.name) (hx : x ∈ set.findings id [] d) :
    x.location.Plain := by
  cases violates_of_mem_findings hs hx with
  | departs visits node h => exact visits.plain hs hr
  | null visits node declared present h =>
    refine List.forall_mem_append.mpr ⟨visits.plain hs hr, List.forall_mem_singleton.mpr ?_⟩
    exact plainName_of_mem hs hr node declared

/-- A departure tells of the node that departs. -/
theorem tellsOf_of_departs {n : Node} {departure : Departure} (h : n.Departs d departure) :
    (⟨l, departure⟩ : Finding).toViolation.TellsOf d := by
  cases h with
  | noObject => rfl
  | noArray => rfl
  | missing h =>
    refine ⟨_, rfl, fun name hname => ?_⟩
    obtain ⟨f, -, -, -, habsent⟩ := (h.mem name).mp hname
    exact habsent
  | tooShort => exact ⟨_, rfl, rfl⟩
  | noMatch => rfl
  | wrongKind => rfl

/-- **Something stands where something is found**, and it is what the violation tells of. -/
theorem exists_at?_of_mem_findings (hs : set.Sound r m) (hx : x ∈ set.findings id [] d) :
    ∃ node, d.at? x.location = some node ∧ x.toViolation.TellsOf node := by
  cases violates_of_mem_findings hs hx with
  | departs visits node h => exact ⟨_, visits.at?_eq, tellsOf_of_departs h⟩
  | null visits node declared present h =>
    exact ⟨.null, (Covers.field visits node declared present).at?_eq, rfl⟩

end SchemaSet

namespace Generator

/-- **A path leads back to its node.** Paths of plain places are read back, and no two such places
have one path. So if all names of a registry are plain, then no two violations of a document have
one path, and the path of each leads to the node that the violation tells of. -/
theorem paths_lead_back (r : Registry) (m : Mode)
    (hr : ∀ f, r.Describes f → Segment.PlainName f.name) (calls : List Call) (id : NodeId)
    (d : Document) :
    let s : Schema := ⟨((new r m).run calls).2.finish, id⟩
    (∀ l : Location, l.Plain → Location.ofPath? l.path = some l) ∧
      (∀ l l' : Location, l.Plain → l'.Plain → l.path = l'.path → l = l') ∧
      ((s.validate d).map (·.path)).Nodup ∧
      ∀ v ∈ s.validate d, ∃ l node, Location.ofPath? v.path = some l ∧ d.at? l = some node ∧
        v.TellsOf node := by
  intro s
  have hs : s.set.Sound r m := sound_finish_run r m calls
  have hplain : ∀ x ∈ s.findings d, x.location.Plain := fun x =>
    SchemaSet.plain_of_mem_findings hs hr
  refine ⟨fun l => Location.ofPath?_path, fun l l' => Location.eq_of_path_eq, ?_, fun v hv => ?_⟩
  · have hpaths : (s.validate d).map (·.path) =
        ((s.findings d).map (·.location)).map Location.path := by
      rw [Schema.validate, List.map_map, List.map_map]
      exact List.map_congr_left fun x _ => x.path_toViolation
    rw [hpaths]
    refine (SchemaSet.nodup_locations hs).map_on fun l hl l' hl' heq => ?_
    obtain ⟨x, hx, rfl⟩ := List.mem_map.mp hl
    obtain ⟨y, hy, rfl⟩ := List.mem_map.mp hl'
    exact Location.eq_of_path_eq (hplain x hx) (hplain y hy) heq
  · obtain ⟨x, hx, rfl⟩ := List.mem_map.mp hv
    obtain ⟨node, hnode, htells⟩ := SchemaSet.exists_at?_of_mem_findings hs hx
    refine ⟨x.location, node, ?_, hnode, htells⟩
    rw [x.path_toViolation, Location.ofPath?_path (hplain x hx)]

theorem plainName_orders (f : FieldDescription) (hf : orders.Describes f) :
    Segment.PlainName f.name := by
  obtain ⟨name, t, ht, hmem⟩ := hf
  have hname : f.name ∈ orders.types.flatMap fun e => e.2.fields.map (·.name) :=
    List.mem_flatMap.mpr ⟨_, Keyed.mem_of_find? ht, List.mem_map_of_mem hmem⟩
  have hplain : ∀ name ∈ orders.types.flatMap fun e => e.2.fields.map (·.name),
      Segment.PlainName name := by
    decide
  exact hplain _ hname

/-- What is wrong in the lines of an order can be found by the paths. -/
theorem paths_lead_back_orders :
    let s : Schema := ⟨((new orders .explicitOnly).run [.generate "Order"]).2.finish, 0⟩
    (∀ f, orders.Describes f → Segment.PlainName f.name) ∧
      (s.validate threeLines).map (·.path) = ["lines[0].count", "lines[1].count", "lines[2].part"] ∧
      ∀ v ∈ s.validate threeLines, ∃ l node, Location.ofPath? v.path = some l ∧
        threeLines.at? l = some node ∧ v.TellsOf node := by
  intro s
  have hpaths : (s.validate threeLines).map (·.path) =
      ["lines[0].count", "lines[1].count", "lines[2].part"] := by
    rw [show s = ⟨orderTable, 0⟩ from congrArg (Schema.mk · 0) finish_orders]
    with_unfolding_all rfl
  obtain ⟨-, -, -, hleads⟩ := paths_lead_back orders .explicitOnly plainName_orders
    [.generate "Order"] 0 threeLines
  exact ⟨plainName_orders, hpaths, hleads⟩

end Generator

end Conformance
