import Conformance.Proofs.TypeExpr.Spelling

/-!
# The written form of a type expression

A type expression may be spelled in many ways and is written in one. What is written is read back,
provided that the names in it are names (`Conformance.TypeExpr.WellFormed`), and nothing else is
ever read.

* `Conformance.TypeExpr.parse_text` – what is written is read back;
* `Conformance.TypeExpr.wellFormed_of_parse` – what is read is well formed;
* `Conformance.TypeExpr.parse_text_iff` – reading and writing are inverse to each other.
-/

namespace Conformance

namespace TypeExpr

variable {e e' : TypeExpr} {cs : List Char} {allowed : List Char → Prop} {s s' : String}

/-- **A type expression is well formed** if what stands for a name in it has the form of one and is
no keyword. -/
def WellFormed : TypeExpr → Prop
  | .scalar _ => True
  | .array element => element.WellFormed
  | .named name => isTypeName name.toList = true ∧ ∀ kind : ScalarKind, name ≠ kind.keyword

/-- The written form spells the type expression, by every grammar. -/
theorem spells_text (h : e.WellFormed) : Spells allowed e.text.toList e := by
  induction e with
  | scalar kind => exact .keyword kind
  | array element ih =>
    have helement : Spells allowed element.text.toList element := ih h
    simpa [text] using helement.bracketed
  | named name => exact .name h.1 h.2

theorem Spells.wellFormed (h : Spells allowed cs e) : e.WellFormed := by
  induction h with
  | keyword kind => exact trivial
  | name form other => exact ⟨form, other⟩
  | bracketed _ ih => exact ih
  | suffixed _ _ ih => exact ih
  | padded _ _ _ ih => exact ih

/-- **What is written is read back.** -/
theorem parse_text (h : e.WellFormed) : parse e.text = .ok e :=
  parse_eq_ok_iff.mpr (spells_text h)

/-- **What is read is well formed.** -/
theorem wellFormed_of_parse (h : parse s = .ok e) : e.WellFormed :=
  (parse_eq_ok_iff.mp h).wellFormed

/-- Of what is read, no two type expressions are written alike. -/
theorem eq_of_text_eq (h : parse s = .ok e) (h' : parse s' = .ok e') (htext : e.text = e'.text) :
    e = e' := by
  have hback : parse e.text = .ok e := parse_text (wellFormed_of_parse h)
  have hback' : parse e'.text = .ok e' := parse_text (wellFormed_of_parse h')
  rw [htext] at hback
  exact Except.ok.inj (hback.symm.trans hback')

/-- **Reading and writing are inverse** on the well-formed type expressions, and these are the ones
that are read: so what a text spells is what its written form spells, and it is written in a way of
its own. -/
theorem parse_text_iff (e : TypeExpr) :
    (parse e.text = .ok e ↔ e.WellFormed) ∧
      ((∃ s, parse s = .ok e) ↔ e.WellFormed) ∧
      (∀ s, parse s = .ok e → parse e.text = parse s) ∧
      ∀ e' s s', parse s = .ok e → parse s' = .ok e' → e.text = e'.text → e = e' := by
  refine ⟨⟨wellFormed_of_parse, parse_text⟩, ⟨?_, fun h => ⟨e.text, parse_text h⟩⟩, ?_, ?_⟩
  · rintro ⟨s, hs⟩
    exact wellFormed_of_parse hs
  · intro s hs
    rw [hs, parse_text (wellFormed_of_parse hs)]
  · intro e' s s' hs hs' htext
    exact eq_of_text_eq hs hs' htext

end TypeExpr

end Conformance
