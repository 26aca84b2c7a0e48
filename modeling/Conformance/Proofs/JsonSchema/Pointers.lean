import Conformance.Proofs.Completeness
import Conformance.Proofs.JsonSchema.References

/-!
# References as pointers

A reference is a pointer into the rendering, and a pointer has its own syntax: a slash separates two
steps, and within a step `~1` stands for a slash and `~0` for a tilde. The name of a type may be any
text, and it is written into the reference as it is. So the pointer leads to the definition that is
meant if the name means itself (`Conformance.JsonSchema.MeansItself`). A slash in it starts another
step, which leads somewhere below a definition or nowhere, and an escape is read as the character it
stands for, which leads to the definition of another name or to none. The syntax does not admit any
other tilde; here it is taken as itself, which is the most that can be said for the reference.

* `Conformance.JsonSchema.place?_reference` – the steps of a reference, whatever the name is;
* `Conformance.JsonSchema.place?_reference_iff` – the names that mean themselves;
* `Conformance.Registry.reference_leads_iff` – the references of a rendering.
-/

namespace Conformance

namespace JsonSchema

variable {cs : List Char} {name ref : String}

/-- The place that a reference means: the steps of its pointer. -/
def place? (ref : String) : Option (List String) :=
  match ref.toList with
  | '#' :: pointer => steps? pointer
  | _ => none

/-- A reference resolves to what stands at its place. -/
theorem resolve?_eq {root : Document} :
    resolve? root ref = (place? ref).bind (follow? · root) := by
  unfold resolve? place?
  generalize ref.toList = chars
  cases chars with
  | nil => rfl
  | cons c rest =>
    by_cases hc : c = '#'
    · subst hc
      rfl
    · simp [hc]

/-! ### Steps that mean themselves -/

/-- **A step means itself** if it holds no escape. -/
def Unescaped (cs : List Char) : Prop := ¬['~', '0'] <:+: cs ∧ ¬['~', '1'] <:+: cs

theorem length_unescape_le (cs : List Char) : (unescape cs).length ≤ cs.length := by
  induction cs using unescape.induct with
  | case1 rest ih =>
    rw [unescape, List.length_cons, List.length_cons, List.length_cons]
    omega
  | case2 rest ih =>
    rw [unescape, List.length_cons, List.length_cons, List.length_cons]
    omega
  | case3 c rest h1 h0 ih =>
    rw [unescape, List.length_cons, List.length_cons]
    · omega
    · exact h1
    · exact h0
  | case4 => exact Nat.le_refl 0

/-- Reading a step changes it if it holds an escape, and in no other case. -/
theorem unescape_eq_self_iff : unescape cs = cs ↔ Unescaped cs := by
  induction cs using unescape.induct with
  | case1 rest ih =>
    refine iff_of_false (fun h => ?_) fun h => h.2 ⟨[], rest, rfl⟩
    rw [unescape] at h
    exact absurd (List.cons.inj h).1 (by decide)
  | case2 rest ih =>
    -- a tilde is left, but the step has become shorter
    refine iff_of_false (fun h => ?_) fun h => h.1 ⟨[], rest, rfl⟩
    have hle := length_unescape_le rest
    rw [unescape] at h
    rw [(List.cons.inj h).2, List.length_cons] at hle
    omega
  | case3 c rest h1 h0 ih =>
    have hone : ∀ x, ¬(c = '~' ∧ ∃ others, rest = x :: others) →
        (['~', x] <:+: c :: rest ↔ ['~', x] <:+: rest) := by
      intro x hx
      refine List.infix_cons_iff.trans (or_iff_right ?_)
      rintro ⟨others, heq⟩
      obtain ⟨rfl, hrest⟩ := List.cons.inj heq
      exact hx ⟨rfl, others, hrest.symm⟩
    have hskip : Unescaped (c :: rest) ↔ Unescaped rest := by
      unfold Unescaped
      rw [hone '0' ?_, hone '1' ?_]
      · rintro ⟨rfl, others, rfl⟩
        exact h1 others rfl rfl
      · rintro ⟨rfl, others, rfl⟩
        exact h0 others rfl rfl
    rw [hskip, ← ih, unescape]
    · exact List.cons_inj_right c
    · exact h1
    · exact h0
  | case4 => exact iff_of_true rfl ⟨by simp, by simp⟩

/-! ### The steps of a reference -/

/-- **A name means itself** in a pointer if it holds neither a slash nor an escape. -/
def MeansItself (name : String) : Prop := '/' ∉ name.toList ∧ Unescaped name.toList

/-- **The steps of a reference**: to the definitions, and then those of the name. -/
theorem place?_reference : place? (definitionsPointer ++ name) =
    some ("$defs" :: (name.toList.splitOn '/').map fun cs => String.ofList (unescape cs)) := by
  have hsplit : ("$defs".toList ++ '/' :: name.toList).splitOn '/' =
      "$defs".toList :: name.toList.splitOn '/' :=
    List.splitOn_append_cons_self_of_not_mem (by decide) _
  rw [place?, String.toList_append]
  change some ((("$defs".toList ++ '/' :: name.toList).splitOn '/').map _) = _
  rw [hsplit, List.map_cons, unescape_of_not_mem (by decide), String.ofList_toList]

/-- **A reference means the definition of its name** if the name means itself, and in no other
case. -/
theorem place?_reference_iff :
    place? (definitionsPointer ++ name) = some ["$defs", name] ↔ MeansItself name := by
  rw [place?_reference, Option.some_inj, List.cons_inj_right]
  by_cases hslash : '/' ∈ name.toList
  · -- a slash makes two steps at least
    refine iff_of_false (fun h => ?_) fun h => h.1 hslash
    obtain ⟨before, after, heq, hbefore⟩ := List.eq_append_cons_of_mem hslash
    rw [heq, List.splitOn_append_cons_self_of_not_mem hbefore, List.map_cons] at h
    exact List.splitOn_ne_nil _ _ (List.map_eq_nil_iff.mp (List.cons.inj h).2)
  · rw [List.splitOn_eq_singleton hslash, List.map_singleton, List.singleton_inj, MeansItself,
      and_iff_right hslash, ← unescape_eq_self_iff]
    constructor
    · intro h
      rw [← String.toList_ofList (l := unescape name.toList), h]
    · intro h
      rw [h, String.ofList_toList]

/-- References to different names are different. -/
theorem reference_inj {name' : String}
    (h : definitionsPointer ++ name = definitionsPointer ++ name') : name = name' := by
  have hchars := congrArg String.toList h
  rw [String.toList_append, String.toList_append] at hchars
  exact String.toList_inj.mp (List.append_cancel_left hchars)

end JsonSchema

/-! ### The references of a rendering -/

namespace Schema

open JsonSchema SchemaSet

variable {s : Schema} {o : ObjectSchema} {name : String} {r : Registry} {m : Mode}

/-- A rendering whose root is an object mentions it. -/
theorem mentions_of_object (h : s.set.node? s.root = some (.object o)) :
    s.toJsonSchema.Mentions (definitionsPointer ++ o.name) := by
  rw [toJsonSchema_eq]
  refine .here ((Keyed.find?_ofList nodup_renderedMembers).mpr ?_)
  rw [renderedMembers, nodeMembers_object h, reference]
  exact List.mem_cons_self

/-- Under the definitions, a name that is not reached leads nowhere. -/
theorem follow?_undefined (hs : s.set.Sound r m)
    (hname : ∀ o, s.set.ReachesObject s.root o → o.name ≠ name) (steps : List String) :
    follow? ("$defs" :: name :: steps) s.toJsonSchema = none := by
  have hnone : Keyed.find? name (Keyed.ofList (s.set.definitionsOf s.root)) = none := by
    refine Option.eq_none_iff_forall_ne_some.mpr fun body hbody => ?_
    obtain ⟨o, ho, heq⟩ := (mem_definitionsOf_iff hs).mp (Keyed.mem_of_find?_ofList hbody)
    exact hname o ho (Prod.mk.inj heq).1.symm
  have hobject : s.toJsonSchema = .object (Keyed.ofList s.renderedMembers) := toJsonSchema_eq
  rw [hobject, follow?]
  by_cases hnil : s.set.definitionsOf s.root = []
  · have hget := get?_toJsonSchema_of_nil hnil
    rw [hobject] at hget
    rw [show Keyed.find? "$defs" (Keyed.ofList s.renderedMembers) = none from hget,
      Option.bind_none]
  · have hget := get?_toJsonSchema_of_ne_nil hnil
    rw [hobject] at hget
    rw [show Keyed.find? "$defs" (Keyed.ofList s.renderedMembers) = some _ from hget,
      Option.bind_some, Document.ofMembers, follow?, hnone, Option.bind_none]

end Schema

namespace Registry

open JsonSchema SchemaSet Generator

/-- **A reference leads to the definition that is meant** if the name of the type means itself, and
in no other case. The definition is there in any case. What is read instead are the steps of the
name, and they lead nowhere if the first one is not itself the name of a type that is reached. -/
theorem reference_leads_iff {r : Registry} {m : Mode} {s : Schema} {ref : String}
    (h : r.Yields m s) (href : s.toJsonSchema.Mentions ref) :
    ∃ o, s.set.ReachesObject s.root o ∧ ref = "#/$defs/" ++ o.name ∧
      follow? ["$defs", o.name] s.toJsonSchema = some (s.set.objectBody o) ∧
      (place? ref = some ["$defs", o.name] ↔ MeansItself o.name) ∧
      (MeansItself o.name → resolve? s.toJsonSchema ref = some (s.set.objectBody o)) ∧
      ∃ first rest, place? ref = some ("$defs" :: first :: rest) ∧
        ((∀ o', s.set.ReachesObject s.root o' → o'.name ≠ first) →
          resolve? s.toJsonSchema ref = none) := by
  obtain ⟨o, ho, rfl⟩ := Schema.mentions_toJsonSchema h.sound href
  have hfollow : follow? ["$defs", o.name] s.toJsonSchema = some (s.set.objectBody o) :=
    Schema.follow?_definition h.sound ((defines_iff h.sound ho.has).mpr ho)
  refine ⟨o, ho, rfl, hfollow, place?_reference_iff, fun hname => ?_, ?_⟩
  · rw [resolve?_eq, place?_reference_iff.mpr hname, Option.bind_some, hfollow]
  · obtain ⟨first, rest, hsteps⟩ := List.exists_cons_of_ne_nil
      (List.splitOn_ne_nil '/' o.name.toList)
    have hplace : place? (definitionsPointer ++ o.name) =
        some ("$defs" :: (o.name.toList.splitOn '/').map _) := place?_reference
    rw [hsteps, List.map_cons] at hplace
    refine ⟨_, _, hplace, fun hname => ?_⟩
    rw [resolve?_eq, hplace, Option.bind_some, Schema.follow?_undefined h.sound hname]

/-- A type without fields, of any name. -/
def lone (name : String) : Registry := ⟨[(name, ⟨name, []⟩)]⟩

/-- Its schema. -/
def loneSchema (name : String) : Schema := ⟨⟨[.object ⟨name, []⟩], [(name, 0)]⟩, 0⟩

/-- The reference to a type named by an identifier leads to its definition. -/
theorem reference_leads_iff_lone :
    Schema.generate (lone "Line") "Line" .explicitOnly = .ok (loneSchema "Line") ∧
      (loneSchema "Line").toJsonSchema.Mentions "#/$defs/Line" ∧ MeansItself "Line" ∧
      ∃ o, resolve? (loneSchema "Line").toJsonSchema "#/$defs/Line" =
        some ((loneSchema "Line").set.objectBody o) ∧ o.name = "Line" := by
  have hgenerates : Schema.generate (lone "Line") "Line" .explicitOnly =
      .ok (loneSchema "Line") := by
    simp only [Schema.generate, Generator.generate, Generator.generateExpr,
      Generating.exprNode_eq_exprNodeWithin_size]
    rfl
  have hmentions : (loneSchema "Line").toJsonSchema.Mentions "#/$defs/Line" :=
    Schema.mentions_of_object (o := ⟨"Line", []⟩) rfl
  have hname : MeansItself "Line" := ⟨by decide, by decide, by decide⟩
  obtain ⟨o, -, href, -, -, hresolves, -⟩ := reference_leads_iff (.generated hgenerates) hmentions
  have ho : "Line" = o.name := reference_inj
    (show definitionsPointer ++ "Line" = definitionsPointer ++ o.name from href)
  exact ⟨hgenerates, hmentions, hname, o, hresolves (ho ▸ hname), ho.symm⟩

/-- **The reference to a type named with a slash leads nowhere.** -/
theorem dangling_lone : Schema.generate (lone "a/b") "a/b" .explicitOnly = .ok (loneSchema "a/b") ∧
    (loneSchema "a/b").toJsonSchema.Mentions "#/$defs/a/b" ∧
    resolve? (loneSchema "a/b").toJsonSchema "#/$defs/a/b" = none := by
  have hgenerates : Schema.generate (lone "a/b") "a/b" .explicitOnly =
      .ok (loneSchema "a/b") := by
    simp only [Schema.generate, Generator.generate, Generator.generateExpr,
      Generating.exprNode_eq_exprNodeWithin_size]
    rfl
  refine ⟨hgenerates, Schema.mentions_of_object (o := ⟨"a/b", []⟩) rfl, ?_⟩
  have hplace : place? "#/$defs/a/b" = some ["$defs", "a", "b"] := by decide
  rw [resolve?_eq, hplace, Option.bind_some]
  -- the only object of the table has another name
  refine Schema.follow?_undefined (Yields.sound (.generated hgenerates)) ?_ ["b"]
  rintro o ⟨id, -, hnode⟩ hname
  have hmem := List.mem_of_getElem? hnode
  obtain rfl : o = ⟨"a/b", []⟩ := by simpa [loneSchema] using hmem
  exact absurd hname (by decide)

end Registry

end Conformance
