import Mathlib.Data.Finset.Card
import Conformance.Proofs.Generation.Outcomes

/-!
# Descents

The recursion that makes the nodes is passed a registry that gets smaller: a type whose fields are
being looked at is taken out of it. That this ends is plain, but nothing depends on it. With the
whole registry at hand at every step a descent ends just as well. This file describes it so
(`Conformance.Generating.Descends`), whether it succeeds or fails, and keeps the names of the object
types that are entered on the way.

A name is remembered before the fields of its type are looked at, and a name that has no type ends
the descent. So no name is entered twice, and each one that is entered and has a type makes one
object: there are no more of them than types of the registry that were not known.

* `Conformance.Generating.exprNode_descends` – the node of a type expression is that of a descent;
* `Conformance.Generating.Descends.unique` – there is one descent only;
* `Conformance.Generating.Descends.enters` – no name is entered twice;
* `Conformance.Generating.Descends.objectNames_eq` – what is entered makes the objects;
* `Conformance.Generator.descends_without_bound` – descents end, and what calls enter.
-/

namespace Conformance

namespace Generating

variable {r r₀ : Registry} {m : Mode}

/-! ### Descents -/

mutual

/-- **The descent for the node of a type expression**: the type expression and where it is referred
to from, what was there before, the names of the object types that are entered, in order, the place
or the error, and what is there afterwards. -/
inductive Descends (r : Registry) (m : Mode) : TypeExpr → String → Arena → List String →
    Except GenerationError NodeId → Arena → Prop where
  /-- It was met before. -/
  | known {e : TypeExpr} {source : String} {a : Arena} {id : NodeId} (h : a.cached? e = some id) :
    Descends r m e source a [] (.ok id) a
  /-- A scalar gets a node. -/
  | scalar {kind : ScalarKind} {source : String} {a : Arena}
    (h : a.cached? (.scalar kind) = none) :
    Descends r m (.scalar kind) source a [] (.ok a.nodes.length)
      ((a.push (.scalar ⟨kind, none⟩)).2.remember (.scalar kind) a.nodes.length)
  /-- An array gets a node after its elements. -/
  | array {element : TypeExpr} {source : String} {a b : Arena} {names : List String} {id : NodeId}
    (h : a.cached? (.array element) = none)
    (elements : Descends r m element source a names (.ok id) b) :
    Descends r m (.array element) source a names (.ok b.nodes.length)
      ((b.push (.array ⟨id, none, m.nullableElements⟩)).2.remember (.array element) b.nodes.length)
  /-- An array fails with its elements. -/
  | arrayFails {element : TypeExpr} {source : String} {a b : Arena} {names : List String}
    {error : GenerationError} (h : a.cached? (.array element) = none)
    (elements : Descends r m element source a names (.error error) b) :
    Descends r m (.array element) source a names (.error error) b
  /-- An object type is entered. -/
  | named {name source : String} {a b : Arena} {names : List String}
    {result : Except GenerationError NodeId} (h : a.cached? (.named name) = none)
    (object : DescendsInto r m name source a names result b) :
    Descends r m (.named name) source a names result b

/-- **The descent into an object type** that is entered. -/
inductive DescendsInto (r : Registry) (m : Mode) : String → String → Arena → List String →
    Except GenerationError NodeId → Arena → Prop where
  /-- There is no type of this name. -/
  | unknown {name source : String} {a : Arena} (h : r.find? name = none) :
    DescendsInto r m name source a [name] (.error (.unknownType name source)) a
  /-- It gets a node before its fields, which is filled in after them. -/
  | object {name source : String} {t : ObjectType} {a b : Arena} {names : List String}
    {fields : List FieldSchema} (type : r.find? name = some t)
    (each : DescendsFields r m name [] t.fields
      ((a.push (.object ⟨name, []⟩)).2.remember (.named name) a.nodes.length) names (.ok fields)
      b) :
    DescendsInto r m name source a (name :: names) (.ok a.nodes.length)
      (b.fill a.nodes.length (.object ⟨name, fields⟩))
  /-- It fails with its fields. -/
  | objectFails {name source : String} {t : ObjectType} {a b : Arena} {names : List String}
    {error : GenerationError} (type : r.find? name = some t)
    (each : DescendsFields r m name [] t.fields
      ((a.push (.object ⟨name, []⟩)).2.remember (.named name) a.nodes.length) names (.error error)
      b) :
    DescendsInto r m name source a (name :: names) (.error error) b

/-- **The descent for the node of a field.** -/
inductive DescendsField (r : Registry) (m : Mode) : String → FieldDescription → Arena →
    List String → Except GenerationError NodeId → Arena → Prop where
  /-- It does not pass the checks of its constraints. -/
  | refused {owner : String} {f : FieldDescription} {a : Arena} {error : GenerationError}
    (h : constraintOf owner f = .error error) : DescendsField r m owner f a [] (.error error) a
  /-- Without a constraint it is that of its type. -/
  | plain {owner : String} {f : FieldDescription} {a b : Arena} {names : List String}
    {result : Except GenerationError NodeId} (h : constraintOf owner f = .ok .none)
    (node : Descends r m f.type (owner ++ "." ++ f.name) a names result b) :
    DescendsField r m owner f a names result b
  /-- With a least number of elements it is an array of its own. -/
  | least {owner : String} {f : FieldDescription} {element : TypeExpr} {n : Nat} {a b : Arena}
    {names : List String} {id : NodeId} (h : constraintOf owner f = .ok (.minLength element n))
    (node : Descends r m element (owner ++ "." ++ f.name) a names (.ok id) b) :
    DescendsField r m owner f a names (.ok b.nodes.length)
      (b.push (.array ⟨id, some n, m.nullableElements⟩)).2
  /-- Such an array fails with its elements. -/
  | leastFails {owner : String} {f : FieldDescription} {element : TypeExpr} {n : Nat} {a b : Arena}
    {names : List String} {error : GenerationError}
    (h : constraintOf owner f = .ok (.minLength element n))
    (node : Descends r m element (owner ++ "." ++ f.name) a names (.error error) b) :
    DescendsField r m owner f a names (.error error) b
  /-- With a pattern it is a scalar of its own. -/
  | pattern {owner : String} {f : FieldDescription} {kind : ScalarKind} {p : Pattern} {a : Arena}
    (h : constraintOf owner f = .ok (.pattern kind p)) :
    DescendsField r m owner f a [] (.ok a.nodes.length) (a.push (.scalar ⟨kind, some p⟩)).2

/-- **The descent for the fields of an object**, in turn, where some names were seen before. -/
inductive DescendsFields (r : Registry) (m : Mode) : String → List String →
    List FieldDescription → Arena → List String → Except GenerationError (List FieldSchema) →
    Arena → Prop where
  /-- There are none. -/
  | nil {owner : String} {seen : List String} {a : Arena} :
    DescendsFields r m owner seen [] a [] (.ok []) a
  /-- The name of the first one was seen. -/
  | repeated {owner : String} {seen : List String} {f : FieldDescription}
    {rest : List FieldDescription} {a : Arena} (h : f.name ∈ seen) :
    DescendsFields r m owner seen (f :: rest) a [] (.error (.duplicateField owner f.name)) a
  /-- The first one fails. -/
  | firstFails {owner : String} {seen : List String} {f : FieldDescription}
    {rest : List FieldDescription} {a b : Arena} {names : List String} {error : GenerationError}
    (new : f.name ∉ seen) (node : DescendsField r m owner f a names (.error error) b) :
    DescendsFields r m owner seen (f :: rest) a names (.error error) b
  /-- The first one is followed by the others. -/
  | cons {owner : String} {seen : List String} {f : FieldDescription}
    {rest : List FieldDescription} {a b c : Arena} {names names' : List String} {id : NodeId}
    {others : List FieldSchema} (new : f.name ∉ seen)
    (node : DescendsField r m owner f a names (.ok id) b)
    (behind : DescendsFields r m owner (f.name :: seen) rest b names' (.ok others) c) :
    DescendsFields r m owner seen (f :: rest) a (names ++ names')
      (.ok (⟨f.name, id, m.required f, m.nullable f⟩ :: others)) c
  /-- One of the others fails. -/
  | behindFails {owner : String} {seen : List String} {f : FieldDescription}
    {rest : List FieldDescription} {a b c : Arena} {names names' : List String} {id : NodeId}
    {error : GenerationError} (new : f.name ∉ seen)
    (node : DescendsField r m owner f a names (.ok id) b)
    (behind : DescendsFields r m owner (f.name :: seen) rest b names' (.error error) c) :
    DescendsFields r m owner seen (f :: rest) a (names ++ names') (.error error) c

end

/-! ### The recursion is a descent -/

mutual

/-- **The node of a type expression is that of a descent**, and so is the failure to make it. -/
theorem exprNode_descends (r : Registry) (e : TypeExpr) (source : String) (a : Arena)
    (hr : a.Lacks r₀ r) :
    (exprNode m r e source).Ensures a
      (fun id b => ∃ names, Descends r₀ m e source a names (.ok id) b)
      fun error b => ∃ names, Descends r₀ m e source a names (.error error) b := by
  cases hcached : a.cached? e with
  | some id =>
    rw [ensures_exprNode_cached hcached]
    exact ⟨_, .known hcached⟩
  | none =>
    cases e with
    | scalar kind =>
      rw [ensures_exprNode_scalar hcached]
      exact ⟨_, .scalar hcached⟩
    | array element =>
      rw [ensures_exprNode_array hcached]
      exact (exprNode_descends r element source a hr).mono
        (fun _ _ ⟨_, hb⟩ => ⟨_, .array hcached hb⟩) fun _ _ ⟨_, hb⟩ => ⟨_, .arrayFails hcached hb⟩
    | named name =>
      cases ht : r.find? name with
      | none =>
        rw [ensures_exprNode_unknown hcached ht]
        exact ⟨_, .named hcached (.unknown (by rw [← hr name hcached, ht]))⟩
      | some t =>
        rw [ensures_exprNode_named hcached ht]
        have ht₀ : r₀.find? name = some t := by rw [← hr name hcached, ht]
        exact (fieldNodes_descends (r.erase name) name [] t.fields _ hr.erase).mono
          (fun _ _ ⟨_, hb⟩ => ⟨_, .named hcached (.object ht₀ hb)⟩)
          fun _ _ ⟨_, hb⟩ => ⟨_, .named hcached (.objectFails ht₀ hb)⟩
termination_by (r.size, 0, sizeOf e)
decreasing_by
  · exact Prod.Lex.right _ (Prod.Lex.right _ (by simp +arith))
  · exact Prod.Lex.left _ _ (Registry.size_erase_lt ht)

/-- The fields of an object are those of a descent. -/
theorem fieldNodes_descends (r : Registry) (owner : String) (seen : List String)
    (fields : List FieldDescription) (a : Arena) (hr : a.Lacks r₀ r) :
    (fieldNodes m r owner seen fields).Ensures a
      (fun made b => ∃ names, DescendsFields r₀ m owner seen fields a names (.ok made) b)
      fun error b => ∃ names, DescendsFields r₀ m owner seen fields a names (.error error) b := by
  cases fields with
  | nil =>
    rw [ensures_fieldNodes_nil]
    exact ⟨_, .nil⟩
  | cons f rest =>
    rw [ensures_fieldNodes_cons]
    by_cases hseen : f.name ∈ seen
    · rw [ensures_fieldNode, if_pos hseen]
      exact ⟨_, .repeated hseen⟩
    have hfield : (fieldNode m (exprNode m r) owner seen f).Ensures a
        (fun id b => ∃ names, DescendsField r₀ m owner f a names (.ok id) b)
        fun error b => ∃ names, DescendsField r₀ m owner f a names (.error error) b := by
      rw [ensures_fieldNode, if_neg hseen]
      split
      · rename_i hc
        exact ⟨_, .refused hc⟩
      · rename_i hc
        exact (exprNode_descends r f.type _ a hr).mono (fun _ _ ⟨_, hb⟩ => ⟨_, .plain hc hb⟩)
          fun _ _ ⟨_, hb⟩ => ⟨_, .plain hc hb⟩
      · rename_i element n hc
        exact (exprNode_descends r element _ a hr).mono (fun _ _ ⟨_, hb⟩ => ⟨_, .least hc hb⟩)
          fun _ _ ⟨_, hb⟩ => ⟨_, .leastFails hc hb⟩
      · rename_i kind p hc
        exact ⟨_, .pattern hc⟩
    have hgrows : (fieldNode m (exprNode m r) owner seen f).Ensures a (fun _ b => a.Grows b)
        fun _ b => a.Grows b :=
      fieldNode_grows owner seen f fun e source =>
        (exprNode_grows r e source a).mono (fun _ _ hb => hb.1) fun _ _ hb => hb
    refine (hfield.and hgrows).mono (fun id b ⟨⟨names, hb⟩, hgrows⟩ => ?_)
      fun error b ⟨⟨names, hb⟩, _⟩ => ⟨names, .firstFails hseen hb⟩
    exact (fieldNodes_descends r owner (f.name :: seen) rest b (hr.mono hgrows)).mono
      (fun _ _ ⟨_, hc⟩ => ⟨_, .cons hseen hb hc⟩) fun _ _ ⟨_, hc⟩ => ⟨_, .behindFails hseen hb hc⟩
termination_by (r.size, 1, sizeOf fields)
decreasing_by
  · exact Prod.Lex.right _ (Prod.Lex.left _ _ Nat.zero_lt_one)
  · exact Prod.Lex.right _ (Prod.Lex.left _ _ Nat.zero_lt_one)
  · exact Prod.Lex.right _ (Prod.Lex.right _ (by simp +arith))

end

mutual

/-- A descent that succeeds is a derivation. -/
theorem Descends.makes {e : TypeExpr} {source : String} {a b : Arena} {names : List String}
    {result : Except GenerationError NodeId} : Descends r m e source a names result b →
      ∀ id, result = .ok id → Makes r m e a id b
  | .known h, _, rfl => .known h
  | .scalar h, _, rfl => .scalar h
  | .array h elements, _, rfl => .array h (elements.makes _ rfl)
  | .named h object, id, hid => object.makes h id hid
termination_by structural h => h

theorem DescendsInto.makes {name source : String} {a b : Arena} {names : List String}
    {result : Except GenerationError NodeId} : DescendsInto r m name source a names result b →
      a.cached? (.named name) = none → ∀ id, result = .ok id → Makes r m (.named name) a id b
  | .object type each, h, _, rfl => .named h type (each.makes _ rfl)
termination_by structural h => h

theorem DescendsField.makes {owner : String} {f : FieldDescription} {a b : Arena}
    {names : List String} {result : Except GenerationError NodeId} :
    DescendsField r m owner f a names result b →
      ∀ id, result = .ok id → MakesField r m owner f a id b
  | .refused _, _, hid => absurd hid (by simp)
  | .plain h node, id, hid => .plain h (node.makes id hid)
  | .least h node, _, hid => by
    obtain rfl := Except.ok.inj hid
    exact .least h (node.makes _ rfl)
  | .leastFails _ _, _, hid => absurd hid (by simp)
  | .pattern h, _, hid => by
    obtain rfl := Except.ok.inj hid
    exact .pattern h
termination_by structural h => h

theorem DescendsFields.makes {owner : String} {seen : List String}
    {fields : List FieldDescription} {a b : Arena} {names : List String}
    {result : Except GenerationError (List FieldSchema)} :
    DescendsFields r m owner seen fields a names result b →
      ∀ made, result = .ok made → MakesFields r m owner seen fields a made b
  | .nil, _, hmade => by
    obtain rfl := Except.ok.inj hmade
    exact .nil
  | .repeated _, _, hmade => absurd hmade (by simp)
  | .firstFails _ _, _, hmade => absurd hmade (by simp)
  | .cons new node behind, _, hmade => by
    obtain rfl := Except.ok.inj hmade
    exact .cons new (node.makes _ rfl) (behind.makes _ rfl)
  | .behindFails _ _ _, _, hmade => absurd hmade (by simp)
termination_by structural h => h

end

/-! ### There is one descent -/

mutual

/-- **There is one descent** for the node of a type expression. -/
theorem Descends.unique {e : TypeExpr} {source : String} {a b b' : Arena}
    {names names' : List String} {result result' : Except GenerationError NodeId} :
    Descends r m e source a names result b → Descends r m e source a names' result' b' →
      names = names' ∧ result = result' ∧ b = b'
  | .known h, other => by
    cases other with
    | known h' => exact ⟨rfl, by rw [Option.some.inj (h.symm.trans h')], rfl⟩
    | _ => exact absurd (h.symm.trans ‹_›) (by simp)
  | .scalar h, other => by
    cases other with
    | known h' => exact absurd (h.symm.trans h') (by simp)
    | scalar => exact ⟨rfl, rfl, rfl⟩
  | .array h elements, other => by
    cases other with
    | known h' => exact absurd (h.symm.trans h') (by simp)
    | array _ elements' =>
      obtain ⟨rfl, hid, rfl⟩ := elements.unique elements'
      obtain rfl := Except.ok.inj hid
      exact ⟨rfl, rfl, rfl⟩
    | arrayFails _ elements' => exact absurd (elements.unique elements').2.1 (by simp)
  | .arrayFails h elements, other => by
    cases other with
    | known h' => exact absurd (h.symm.trans h') (by simp)
    | array _ elements' => exact absurd (elements.unique elements').2.1 (by simp)
    | arrayFails _ elements' => exact elements.unique elements'
  | .named h object, other => by
    cases other with
    | known h' => exact absurd (h.symm.trans h') (by simp)
    | named _ object' => exact object.unique object'
termination_by structural h => h

theorem DescendsInto.unique {name source : String} {a b b' : Arena} {names names' : List String}
    {result result' : Except GenerationError NodeId} :
    DescendsInto r m name source a names result b →
      DescendsInto r m name source a names' result' b' →
        names = names' ∧ result = result' ∧ b = b'
  | .unknown h, other => by
    cases other with
    | unknown => exact ⟨rfl, rfl, rfl⟩
    | _ => exact absurd (h.symm.trans ‹_›) (by simp)
  | .object type each, other => by
    cases other with
    | unknown h => exact absurd (h.symm.trans type) (by simp)
    | object type' each' =>
      obtain rfl := Option.some.inj (type.symm.trans type')
      obtain ⟨rfl, hfields, rfl⟩ := each.unique each'
      obtain rfl := Except.ok.inj hfields
      exact ⟨rfl, rfl, rfl⟩
    | objectFails type' each' =>
      obtain rfl := Option.some.inj (type.symm.trans type')
      exact absurd (each.unique each').2.1 (by simp)
  | .objectFails type each, other => by
    cases other with
    | unknown h => exact absurd (h.symm.trans type) (by simp)
    | object type' each' =>
      obtain rfl := Option.some.inj (type.symm.trans type')
      exact absurd (each.unique each').2.1 (by simp)
    | objectFails type' each' =>
      obtain rfl := Option.some.inj (type.symm.trans type')
      obtain ⟨rfl, herror, rfl⟩ := each.unique each'
      exact ⟨rfl, by simpa using herror, rfl⟩
termination_by structural h => h

theorem DescendsField.unique {owner : String} {f : FieldDescription} {a b b' : Arena}
    {names names' : List String} {result result' : Except GenerationError NodeId} :
    DescendsField r m owner f a names result b →
      DescendsField r m owner f a names' result' b' →
        names = names' ∧ result = result' ∧ b = b'
  | .refused h, other => by
    cases other with
    | refused h' => exact ⟨rfl, by simpa using h.symm.trans h', rfl⟩
    | _ => exact absurd (h.symm.trans ‹_›) (by simp)
  | .plain h node, other => by
    cases other with
    | plain _ node' => exact node.unique node'
    | _ => exact absurd (h.symm.trans ‹_›) (by simp)
  | .least h node, other => by
    cases other with
    | least h' node' =>
      obtain ⟨rfl, rfl⟩ : _ ∧ _ := by simpa using h.symm.trans h'
      obtain ⟨rfl, hid, rfl⟩ := node.unique node'
      obtain rfl := Except.ok.inj hid
      exact ⟨rfl, rfl, rfl⟩
    | leastFails h' node' =>
      obtain ⟨rfl, rfl⟩ : _ ∧ _ := by simpa using h.symm.trans h'
      exact absurd (node.unique node').2.1 (by simp)
    | _ => exact absurd (h.symm.trans ‹_›) (by simp)
  | .leastFails h node, other => by
    cases other with
    | least h' node' =>
      obtain ⟨rfl, rfl⟩ : _ ∧ _ := by simpa using h.symm.trans h'
      exact absurd (node.unique node').2.1 (by simp)
    | leastFails h' node' =>
      obtain ⟨rfl, rfl⟩ : _ ∧ _ := by simpa using h.symm.trans h'
      exact node.unique node'
    | _ => exact absurd (h.symm.trans ‹_›) (by simp)
  | .pattern h, other => by
    cases other with
    | pattern h' =>
      obtain ⟨rfl, rfl⟩ : _ ∧ _ := by simpa using h.symm.trans h'
      exact ⟨rfl, rfl, rfl⟩
    | _ => exact absurd (h.symm.trans ‹_›) (by simp)
termination_by structural h => h

theorem DescendsFields.unique {owner : String} {seen : List String}
    {fields : List FieldDescription} {a b b' : Arena} {names names' : List String}
    {result result' : Except GenerationError (List FieldSchema)} :
    DescendsFields r m owner seen fields a names result b →
      DescendsFields r m owner seen fields a names' result' b' →
        names = names' ∧ result = result' ∧ b = b'
  | .nil, other => by
    cases other with
    | nil => exact ⟨rfl, rfl, rfl⟩
  | .repeated h, other => by
    cases other with
    | repeated => exact ⟨rfl, rfl, rfl⟩
    | firstFails new => exact absurd h new
    | cons new => exact absurd h new
    | behindFails new => exact absurd h new
  | .firstFails new node, other => by
    cases other with
    | repeated h => exact absurd h new
    | firstFails _ node' =>
      obtain ⟨rfl, herror, rfl⟩ := node.unique node'
      exact ⟨rfl, by simpa using herror, rfl⟩
    | cons _ node' => exact absurd (node.unique node').2.1 (by simp)
    | behindFails _ node' => exact absurd (node.unique node').2.1 (by simp)
  | .cons new node behind, other => by
    cases other with
    | repeated h => exact absurd h new
    | firstFails _ node' => exact absurd (node.unique node').2.1 (by simp)
    | cons _ node' behind' =>
      obtain ⟨rfl, hid, rfl⟩ := node.unique node'
      obtain rfl := Except.ok.inj hid
      obtain ⟨rfl, hothers, rfl⟩ := behind.unique behind'
      obtain rfl := Except.ok.inj hothers
      exact ⟨rfl, rfl, rfl⟩
    | behindFails _ node' behind' =>
      obtain ⟨rfl, hid, rfl⟩ := node.unique node'
      exact absurd (behind.unique behind').2.1 (by simp)
  | .behindFails new node behind, other => by
    cases other with
    | repeated h => exact absurd h new
    | firstFails _ node' => exact absurd (node.unique node').2.1 (by simp)
    | cons _ node' behind' =>
      obtain ⟨rfl, hid, rfl⟩ := node.unique node'
      exact absurd (behind.unique behind').2.1 (by simp)
    | behindFails _ node' behind' =>
      obtain ⟨rfl, hid, rfl⟩ := node.unique node'
      obtain ⟨rfl, herror, rfl⟩ := behind.unique behind'
      exact ⟨rfl, by simpa using herror, rfl⟩
termination_by structural h => h

end

end Generating

/-! ### The names entered -/

namespace Arena

variable {a b : Arena} {names names' : List String} {name : String} {id : NodeId} {n : Node}

/-- **The names that are entered from an arena**: each once, and none that it knew. -/
structure Enters (a : Arena) (names : List String) : Prop where
  /-- No name occurs twice. -/
  nodup : names.Nodup
  /-- None of them was known. -/
  unknown : ∀ name ∈ names, ¬a.Knows name

theorem enters_nil : a.Enters [] := ⟨List.nodup_nil, by simp⟩

theorem knows_of_grows (h : a.Grows b) (hname : a.Knows name) : b.Knows name := by
  obtain ⟨id, hid⟩ := hname
  exact ⟨id, h.cached? hid⟩

theorem not_knows_iff : ¬a.Knows name ↔ a.cached? (.named name) = none := by
  simp [Knows, Option.eq_none_iff_forall_ne_some]

/-- A name that is reserved comes before those that are entered from there. -/
theorem Enters.reserve (hname : ¬a.Knows name)
    (h : ((a.push n).2.remember (.named name) id).Enters names) : a.Enters (name :: names) := by
  refine ⟨List.nodup_cons.mpr ⟨fun hmem => ?_, h.nodup⟩, fun name' hname' hknown => ?_⟩
  · exact h.unknown name hmem (knows_remember_named.mpr (Or.inl rfl))
  · rcases List.mem_cons.mp hname' with rfl | hmem
    · exact hname hknown
    · exact h.unknown name' hmem (knows_remember_named.mpr (Or.inr hknown))

/-- Names that are known in the end are followed by those that are entered from there. -/
theorem Enters.append (h : a.Enters names) (hgrows : a.Grows b)
    (hknown : ∀ name ∈ names, b.Knows name) (h' : b.Enters names') :
    a.Enters (names ++ names') := by
  refine ⟨List.nodup_append.mpr ⟨h.nodup, h'.nodup, ?_⟩, fun name hname => ?_⟩
  · rintro name hmem name' hmem' rfl
    exact h'.unknown name hmem' (hknown name hmem)
  · rcases List.mem_append.mp hname with hmem | hmem
    · exact h.unknown name hmem
    · exact fun hknows => h'.unknown name hmem (knows_of_grows hgrows hknows)

end Arena

namespace Generating

variable {r : Registry} {m : Mode}

mutual

/-- What a descent has entered is known in the end, if it succeeds. -/
theorem Descends.knows {e : TypeExpr} {source : String} {a b : Arena} {names : List String}
    {result : Except GenerationError NodeId} : Descends r m e source a names result b →
      ∀ id, result = .ok id → ∀ name ∈ names, b.Knows name
  | .known _, _, _, name, hname => absurd hname List.not_mem_nil
  | .scalar _, _, _, name, hname => absurd hname List.not_mem_nil
  | .array _ elements, _, _, name, hname =>
    (Arena.knows_remember_of_ne (by simp)).mpr (elements.knows _ rfl name hname)
  | .arrayFails _ _, _, hid, _, _ => absurd hid (by simp)
  | .named h object, id, hid, name, hname => object.knows h id hid name hname
termination_by structural h => h

theorem DescendsInto.knows {name source : String} {a b : Arena} {names : List String}
    {result : Except GenerationError NodeId} : DescendsInto r m name source a names result b →
      a.cached? (.named name) = none → ∀ id, result = .ok id → ∀ name ∈ names, b.Knows name
  | .unknown _, _, _, hid, _, _ => absurd hid (by simp)
  | .object type each, h, _, _, name', hname' => by
    rcases List.mem_cons.mp hname' with rfl | hmem
    · exact ⟨_, (each.makes _ rfl).grows.cached? Arena.cached?_remember_self⟩
    · exact each.knows _ rfl name' hmem
  | .objectFails _ _, _, _, hid, _, _ => absurd hid (by simp)
termination_by structural h => h

theorem DescendsField.knows {owner : String} {f : FieldDescription} {a b : Arena}
    {names : List String} {result : Except GenerationError NodeId} :
    DescendsField r m owner f a names result b →
      ∀ id, result = .ok id → ∀ name ∈ names, b.Knows name
  | .refused _, _, _, _, hname => absurd hname List.not_mem_nil
  | .plain _ node, id, hid, name, hname => node.knows id hid name hname
  | .least _ node, _, _, name, hname => node.knows _ rfl name hname
  | .leastFails _ _, _, hid, _, _ => absurd hid (by simp)
  | .pattern _, _, _, _, hname => absurd hname List.not_mem_nil
termination_by structural h => h

theorem DescendsFields.knows {owner : String} {seen : List String}
    {fields : List FieldDescription} {a b : Arena} {names : List String}
    {result : Except GenerationError (List FieldSchema)} :
    DescendsFields r m owner seen fields a names result b →
      ∀ made, result = .ok made → ∀ name ∈ names, b.Knows name
  | .nil, _, _, _, hname => absurd hname List.not_mem_nil
  | .repeated _, _, _, _, hname => absurd hname List.not_mem_nil
  | .firstFails _ _, _, hmade, _, _ => absurd hmade (by simp)
  | .cons _ node behind, _, _, name, hname => by
    rcases List.mem_append.mp hname with hmem | hmem
    · exact Arena.knows_of_grows (behind.makes _ rfl).grows (node.knows _ rfl name hmem)
    · exact behind.knows _ rfl name hmem
  | .behindFails _ _ _, _, hmade, _, _ => absurd hmade (by simp)
termination_by structural h => h

end

mutual

/-- **No name is entered twice**, and none that was known. -/
theorem Descends.enters {e : TypeExpr} {source : String} {a b : Arena} {names : List String}
    {result : Except GenerationError NodeId} :
    Descends r m e source a names result b → a.Enters names
  | .known _ => Arena.enters_nil
  | .scalar _ => Arena.enters_nil
  | .array _ elements => elements.enters
  | .arrayFails _ elements => elements.enters
  | .named h object => object.enters (Arena.not_knows_iff.mpr h)
termination_by structural h => h

theorem DescendsInto.enters {name source : String} {a b : Arena} {names : List String}
    {result : Except GenerationError NodeId} :
    DescendsInto r m name source a names result b → ¬a.Knows name → a.Enters names
  | .unknown _, h => ⟨List.nodup_singleton _, by simpa using h⟩
  | .object _ each, h => each.enters.reserve h
  | .objectFails _ each, h => each.enters.reserve h
termination_by structural h => h

theorem DescendsField.enters {owner : String} {f : FieldDescription} {a b : Arena}
    {names : List String} {result : Except GenerationError NodeId} :
    DescendsField r m owner f a names result b → a.Enters names
  | .refused _ => Arena.enters_nil
  | .plain _ node => node.enters
  | .least _ node => node.enters
  | .leastFails _ node => node.enters
  | .pattern _ => Arena.enters_nil
termination_by structural h => h

theorem DescendsFields.enters {owner : String} {seen : List String}
    {fields : List FieldDescription} {a b : Arena} {names : List String}
    {result : Except GenerationError (List FieldSchema)} :
    DescendsFields r m owner seen fields a names result b → a.Enters names
  | .nil => Arena.enters_nil
  | .repeated _ => Arena.enters_nil
  | .firstFails _ node => node.enters
  | .cons _ node behind =>
    node.enters.append (node.makes _ rfl).grows (node.knows _ rfl) behind.enters
  | .behindFails _ node behind =>
    node.enters.append (node.makes _ rfl).grows (node.knows _ rfl) behind.enters
termination_by structural h => h

end

end Generating

/-! ### The objects made -/

/-- The name of an object. -/
def Node.objectName? : Node → Option String
  | .object o => some o.name
  | _ => none

namespace Arena

variable {a : Arena} {e : TypeExpr} {id : NodeId} {n : Node} {name : String}

/-- The names of the objects of an arena, in the order of their places. -/
def objectNames (a : Arena) : List String := a.nodes.filterMap Node.objectName?

@[simp] theorem objectNames_push :
    (a.push n).2.objectNames = a.objectNames ++ n.objectName?.toList := by
  rw [objectNames, nodes_push, List.filterMap_append]
  cases hn : n.objectName? <;> simp [objectNames, hn]

@[simp] theorem objectNames_remember : (a.remember e id).objectNames = a.objectNames := rfl

/-- Filling in the fields of an object does not change its name. -/
theorem objectNames_fill {old fields : List FieldSchema}
    (h : a.nodes[id]? = some (.object ⟨name, old⟩)) :
    (a.fill id (.object ⟨name, fields⟩)).objectNames = a.objectNames := by
  unfold objectNames
  rw [nodes_fill]
  generalize a.nodes = nodes at h
  induction nodes generalizing id with
  | nil => rfl
  | cons first rest ih =>
    cases id with
    | zero =>
      obtain rfl : first = .object ⟨name, old⟩ := by simpa using h
      rfl
    | succ id =>
      rw [List.set_cons_succ, List.filterMap_cons, List.filterMap_cons, ih (by simpa using h)]

end Arena

namespace Generating

variable {r : Registry} {m : Mode}

mutual

/-- **What is entered makes the objects**: one for each name that has a type, in order. -/
theorem Descends.objectNames_eq {e : TypeExpr} {source : String} {a b : Arena}
    {names : List String} {result : Except GenerationError NodeId} :
    Descends r m e source a names result b →
      b.objectNames = a.objectNames ++ names.filter (· ∈ r.names)
  | .known _ => by simp
  | .scalar _ => by simp [Node.objectName?]
  | .array _ elements => by simp [Node.objectName?, elements.objectNames_eq]
  | .arrayFails _ elements => elements.objectNames_eq
  | .named _ object => object.objectNames_eq
termination_by structural h => h

theorem DescendsInto.objectNames_eq {name source : String} {a b : Arena} {names : List String}
    {result : Except GenerationError NodeId} :
    DescendsInto r m name source a names result b →
      b.objectNames = a.objectNames ++ names.filter (· ∈ r.names)
  | .unknown h => by
    have hmem : name ∉ r.names := fun hmem => by
      obtain ⟨t, ht⟩ := Registry.mem_names_iff.mp hmem
      exact absurd (h.symm.trans ht) (by simp)
    simp [hmem]
  | .object type each => by
    rw [Arena.objectNames_fill (each.makes _ rfl).getElem?_reserved, each.objectNames_eq]
    simp [Node.objectName?, Registry.mem_names_iff.mpr ⟨_, type⟩]
  | .objectFails type each => by
    rw [each.objectNames_eq]
    simp [Node.objectName?, Registry.mem_names_iff.mpr ⟨_, type⟩]
termination_by structural h => h

theorem DescendsField.objectNames_eq {owner : String} {f : FieldDescription} {a b : Arena}
    {names : List String} {result : Except GenerationError NodeId} :
    DescendsField r m owner f a names result b →
      b.objectNames = a.objectNames ++ names.filter (· ∈ r.names)
  | .refused _ => by simp
  | .plain _ node => node.objectNames_eq
  | .least _ node => by simp [Node.objectName?, node.objectNames_eq]
  | .leastFails _ node => node.objectNames_eq
  | .pattern _ => by simp [Node.objectName?]
termination_by structural h => h

theorem DescendsFields.objectNames_eq {owner : String} {seen : List String}
    {fields : List FieldDescription} {a b : Arena} {names : List String}
    {result : Except GenerationError (List FieldSchema)} :
    DescendsFields r m owner seen fields a names result b →
      b.objectNames = a.objectNames ++ names.filter (· ∈ r.names)
  | .nil => by simp
  | .repeated _ => by simp
  | .firstFails _ node => node.objectNames_eq
  | .cons _ node behind => by
    rw [behind.objectNames_eq, node.objectNames_eq, List.filter_append, List.append_assoc]
  | .behindFails _ node behind => by
    rw [behind.objectNames_eq, node.objectNames_eq, List.filter_append, List.append_assoc]
termination_by structural h => h

end

end Generating

/-! ### How many objects there can be -/

/-- **The types of a registry that were not met.** -/
def Arena.unmet (r : Registry) (a : Arena) : Finset String :=
  r.names.toFinset.filter fun name => a.cached? (.named name) = none

/-- There are no more types that are entered than there are types that were not met. -/
theorem Arena.Enters.length_filter_le {r : Registry} {a : Arena} {names : List String}
    (h : a.Enters names) : (names.filter (· ∈ r.names)).length ≤ (a.unmet r).card := by
  rw [← List.toFinset_card_of_nodup (h.nodup.filter _)]
  refine Finset.card_le_card fun name hname => ?_
  obtain ⟨hmem, hdescribed⟩ := List.mem_filter.mp (List.mem_toFinset.mp hname)
  exact Finset.mem_filter.mpr ⟨List.mem_toFinset.mpr (of_decide_eq_true hdescribed),
    not_knows_iff.mp (h.unknown name hmem)⟩

namespace Generating

variable {r : Registry} {m : Mode}

/-! ### Descents, accounted for -/

/-- **A descent for the node of a type expression, accounted for.** -/
structure Descent (r : Registry) (m : Mode) (e : TypeExpr) (source : String) (a : Arena)
    (names : List String) (result : Except GenerationError NodeId) (b : Arena) : Prop where
  /-- It is a descent. -/
  descends : Descends r m e source a names result b
  /-- There is no other. -/
  unique : ∀ names' result' b', Descends r m e source a names' result' b' →
    names = names' ∧ result = result' ∧ b = b'
  /-- Generation ends in the same way. -/
  computed : (exprNode m r e source).Ensures a (fun id c => result = .ok id ∧ b = c)
    fun error c => result = .error error ∧ b = c
  /-- No object type is entered twice, and none that was known. -/
  enters : a.Enters names
  /-- An object is made of each type that is entered. -/
  objects : b.objectNames = a.objectNames ++ names.filter (· ∈ r.names)
  /-- There are no more of them than there are types that were not met. -/
  bounded : (names.filter (· ∈ r.names)).length ≤ (a.unmet r).card

/-- **Every descent ends**, from whatever was there before. -/
theorem exists_descent (r : Registry) (m : Mode) (e : TypeExpr) (source : String) (a : Arena) :
    ∃ names result b, Descent r m e source a names result b := by
  have hstep := exprNode_descends (m := m) r e source a (fun _ _ => rfl)
  have hdescent : ∀ {names : List String} {result : Except GenerationError NodeId} {b : Arena},
      Descends r m e source a names result b →
        (exprNode m r e source).Ensures a (fun id c => result = .ok id ∧ b = c)
          (fun error c => result = .error error ∧ b = c) →
        Descent r m e source a names result b := fun h hcomputed =>
    ⟨h, fun _ _ _ => h.unique, hcomputed, h.enters, h.objectNames_eq, h.enters.length_filter_le⟩
  unfold Ensures at hstep hdescent
  cases hrun : (exprNode m r e source).run a with
  | ok id b =>
    rw [hrun] at hstep hdescent
    obtain ⟨names, h⟩ := hstep
    exact ⟨names, .ok id, b, hdescent h ⟨rfl, rfl⟩⟩
  | error error b =>
    rw [hrun] at hstep hdescent
    obtain ⟨names, h⟩ := hstep
    exact ⟨names, .error error, b, hdescent h ⟨rfl, rfl⟩⟩

/-- **The descents of calls for named types**, in turn. One that fails is rolled back. -/
inductive DescendsNames (r : Registry) (m : Mode) : List String → Arena → List String →
    Except GenerationError Unit → Arena → Prop where
  /-- There are none. -/
  | nil {a : Arena} : DescendsNames r m [] a [] (.ok ()) a
  /-- The first one fails. -/
  | firstFails {name : String} {rest names : List String} {a b : Arena} {error : GenerationError}
    (first : Descends r m (.named name) "<root>" a names (.error error) b) :
    DescendsNames r m (name :: rest) a names (.error error) a
  /-- The first one is followed by the others. -/
  | cons {name : String} {rest names names' : List String} {a b c : Arena} {id : NodeId}
    {result : Except GenerationError Unit}
    (first : Descends r m (.named name) "<root>" a names (.ok id) b)
    (behind : DescendsNames r m rest b names' result c) :
    DescendsNames r m (name :: rest) a (names ++ names') result c

namespace DescendsNames

variable {types names : List String} {a b : Arena} {result : Except GenerationError Unit}

/-- No object type is entered twice. -/
theorem enters (h : DescendsNames r m types a names result b) : a.Enters names := by
  induction h with
  | nil => exact Arena.enters_nil
  | firstFails first => exact first.enters
  | cons first _ ih => exact first.enters.append (first.makes _ rfl).grows (first.knows _ rfl) ih

/-- The objects that are left are those of the first types that were entered. -/
theorem objectNames_eq (h : DescendsNames r m types a names result b) :
    ∃ made, b.objectNames = a.objectNames ++ made ∧ made <+: names.filter (· ∈ r.names) := by
  induction h with
  | nil => exact ⟨[], by simp, List.nil_prefix⟩
  | firstFails first => exact ⟨[], by simp, List.nil_prefix⟩
  | cons first _ ih =>
    obtain ⟨made, hmade, hprefix⟩ := ih
    refine ⟨_, by rw [hmade, first.objectNames_eq, List.append_assoc], ?_⟩
    rw [List.filter_append]
    exact (List.prefix_append_right_inj _).mpr hprefix

end DescendsNames

end Generating

namespace Generator

open Generating (Descends DescendsNames Descent)

variable {g : Generator}

/-- A call for a type expression is a descent, which is rolled back if it fails. -/
theorem generateExpr_descends (hg : g.Sound) (e : TypeExpr) :
    (∃ names id b, Descends g.registry g.mode e "<root>" g.arena names (.ok id) b ∧
      g.generateExpr e = (.ok id, { g with arena := b })) ∨
    ∃ names error b, Descends g.registry g.mode e "<root>" g.arena names (.error error) b ∧
      g.generateExpr e = (.error error, g) := by
  rcases generateExpr_of_ensures hg
      (Generating.exprNode_descends g.registry e "<root>" g.arena (fun _ _ => rfl)) with
    ⟨id, b, hcall, names, h⟩ | ⟨error, b, hcall, names, h⟩
  · exact Or.inl ⟨names, id, b, h, hcall⟩
  · exact Or.inr ⟨names, error, b, h, hcall⟩

/-- Calls for named types, in turn, are descents. -/
theorem generateNames_descends (hg : g.Sound) (types : List String) :
    ∃ names, DescendsNames g.registry g.mode types g.arena names (g.generateNames types).1
      (g.generateNames types).2.arena := by
  induction types generalizing g with
  | nil => exact ⟨[], .nil⟩
  | cons name rest ih =>
    have hleads := generateExpr_leads hg (.named name)
    rcases generateExpr_descends hg (.named name) with
      ⟨names, id, b, h, hcall⟩ | ⟨names, error, b, h, hcall⟩
    · rw [hcall] at hleads
      obtain ⟨names', h'⟩ := ih hleads.sound
      refine ⟨names ++ names', ?_⟩
      rw [generateNames, generate, hcall]
      exact .cons h h'
    · refine ⟨names, ?_⟩
      rw [generateNames, generate, hcall]
      exact .firstFails h

/-- **What a call enters**: the names of the object types, in order. -/
inductive Enters (g : Generator) : Call → List String → Prop where
  /-- A call for a named type. -/
  | generate {name : String} {names : List String} {b : Arena}
    (h : Descends g.registry g.mode (.named name) "<root>" g.arena names (g.generate name).1 b) :
    g.Enters (.generate name) names
  /-- A call for a type expression. -/
  | generateExpr {e : TypeExpr} {names : List String} {b : Arena}
    (h : Descends g.registry g.mode e "<root>" g.arena names (g.generateExpr e).1 b) :
    g.Enters (.generateExpr e) names
  /-- The call for all types. -/
  | generateAll {names : List String}
    (h : DescendsNames g.registry g.mode g.registry.names g.arena names g.generateAll.1
      g.generateAll.2.arena) : g.Enters .generateAll names

/-- **A call enters each object type once at most**, and what is left of the objects made is no more
than there are types that were not met. -/
theorem exists_enters (hg : g.Sound) (c : Call) :
    ∃ names made, g.Enters c names ∧ g.arena.Enters names ∧
      (g.call c).2.arena.objectNames = g.arena.objectNames ++ made ∧
      made <+: names.filter (· ∈ g.registry.names) := by
  have hexpr : ∀ e, ∃ names made b,
      Descends g.registry g.mode e "<root>" g.arena names (g.generateExpr e).1 b ∧
        (g.generateExpr e).2.arena.objectNames = g.arena.objectNames ++ made ∧
        made <+: names.filter (· ∈ g.registry.names) := by
    intro e
    rcases generateExpr_descends hg e with ⟨names, id, b, h, hcall⟩ | ⟨names, error, b, h, hcall⟩
    · rw [hcall]
      exact ⟨names, _, b, h, h.objectNames_eq, List.prefix_rfl⟩
    · rw [hcall]
      exact ⟨names, [], b, h, (List.append_nil _).symm, List.nil_prefix⟩
  cases c with
  | generate name =>
    obtain ⟨names, made, b, h, hmade⟩ := hexpr (.named name)
    exact ⟨names, made, .generate h, h.enters, hmade⟩
  | generateExpr e =>
    obtain ⟨names, made, b, h, hmade⟩ := hexpr e
    exact ⟨names, made, .generateExpr h, h.enters, hmade⟩
  | generateAll =>
    obtain ⟨names, h⟩ := generateNames_descends hg g.registry.names
    obtain ⟨made, hmade⟩ := h.objectNames_eq
    exact ⟨names, made, .generateAll h, h.enters, hmade⟩

/-- **Generation ends without a bound.** From whatever was there before, the descent for a type
expression ends, in one way only. No call enters an object type twice, and none leaves more objects
behind than there are types of the registry that were not met before it. -/
theorem descends_without_bound (r : Registry) (m : Mode) :
    (∀ e source a, ∃ names result b, Descent r m e source a names result b) ∧
      ∀ calls c, let g := ((new r m).run calls).2
        ∃ names made, g.Enters c names ∧ g.arena.Enters names ∧
          (g.call c).2.arena.objectNames = g.arena.objectNames ++ made ∧
          made <+: names.filter (· ∈ r.names) ∧ made.length ≤ (g.arena.unmet r).card := by
  refine ⟨Generating.exists_descent r m, fun calls c => ?_⟩
  have hleads : (new r m).Leads ((new r m).run calls).2 := run_leads (sound_new r m) calls
  obtain ⟨names, made, hcall, henters, hmade, hprefix⟩ := exists_enters hleads.sound c
  rw [hleads.registry] at hprefix
  exact ⟨names, made, hcall, henters, hmade, hprefix,
    hprefix.length_le.trans henters.length_filter_le⟩

end Generator

end Conformance
