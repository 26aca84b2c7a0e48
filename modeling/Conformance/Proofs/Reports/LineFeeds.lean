import Mathlib.Data.List.Basic
import Conformance.Document.Basic
import Conformance.Location

/-!
# Texts of one line

Values of a document stand in messages as they are, and a message has to stay on its line. It does,
because no line feed gets into the compact text of a value: it is escaped in texts and in keys, and
nothing else that is written holds one.

* `Conformance.Text.OneLine` – a text without line feeds;
* `Conformance.Text.lines` – the lines of a text, and `Conformance.Text.lines_join` for a text that
  is put together from lines;
* `Conformance.Document.oneLine_text` – the text of a document is one line;
* `Conformance.Location.oneLine_path` – so is the path of a place, if the names in it are.
-/

namespace Conformance

namespace Text

/-! ### Lines -/

/-- **A text of one line**: there is no line feed in it. -/
def OneLine (s : String) : Prop := '\n' ∉ s.toList

instance {s : String} : Decidable (OneLine s) := inferInstanceAs (Decidable ('\n' ∉ s.toList))

/-- The lines of a text. What stands behind the last line feed is one too, even if it is empty. -/
def lines (s : String) : List String := (s.toList.splitOn '\n').map String.ofList

variable {s t : String} {cs : List Char}

theorem oneLine_append : OneLine (s ++ t) ↔ OneLine s ∧ OneLine t := by
  rw [OneLine, String.toList_append, List.mem_append, not_or]
  rfl

theorem oneLine_ofList : OneLine (String.ofList cs) ↔ '\n' ∉ cs := by
  rw [OneLine, String.toList_ofList]

theorem OneLine.append (hs : OneLine s) (ht : OneLine t) : OneLine (s ++ t) :=
  oneLine_append.mpr ⟨hs, ht⟩

theorem oneLine_intercalate {names : List String} (hs : OneLine s)
    (h : ∀ name ∈ names, OneLine name) : OneLine (s.intercalate names) := by
  induction names with
  | nil => simp [OneLine]
  | cons name rest ih =>
    have hname : OneLine name := h name List.mem_cons_self
    have hrest := ih fun other hother => h other (List.mem_cons_of_mem _ hother)
    cases rest with
    | nil => simpa [OneLine] using hname
    | cons next rest =>
      have hsplit : s.intercalate (name :: next :: rest) =
          name ++ (s ++ s.intercalate (next :: rest)) := by
        apply String.toList_injective
        simp
      rw [hsplit]
      exact hname.append (hs.append hrest)

/-- **A text put together from lines** has these lines, and nothing behind them. -/
theorem lines_join {ls : List String} (h : ∀ line ∈ ls, OneLine line) :
    lines (String.join (ls.map (· ++ "\n"))) = ls ++ [""] := by
  have hjoin : (String.join (ls.map (· ++ "\n"))).toList =
      ['\n'].intercalate ((ls ++ [""]).map String.toList) := by
    induction ls with
    | nil => simp
    | cons line rest ih =>
      have hrest := ih fun other hother => h other (List.mem_cons_of_mem _ hother)
      rw [List.map_cons, String.toList_join, List.flatMap_cons, ← String.toList_join, hrest,
        List.cons_append, List.map_cons, List.intercalate_cons_of_ne_nil (by simp)]
      simp
  have hlines : ∀ cs ∈ (ls ++ [""]).map String.toList, '\n' ∉ cs := by
    intro cs hcs
    obtain ⟨line, hline, rfl⟩ := List.mem_map.mp hcs
    rcases List.mem_append.mp hline with hline | hline
    · exact h line hline
    · rw [List.mem_singleton.mp hline]
      decide
  rw [lines, hjoin, List.splitOn_intercalate '\n' hlines (by simp), List.map_map]
  simp

end Text

/-! ### Numbers -/

namespace Number

open Text (OneLine oneLine_append oneLine_ofList)

theorem newline_not_mem_toDigits (n : Nat) : '\n' ∉ Nat.toDigits 10 n := by
  intro h
  exact absurd (Nat.isDigit_of_mem_toDigits (by omega) (by omega) h) (by decide)

theorem oneLine_natText (n : Nat) : OneLine (natText n) :=
  oneLine_ofList.mpr (newline_not_mem_toDigits n)

theorem oneLine_intText (i : Int) : OneLine (intText i) := by
  unfold intText
  split
  · exact oneLine_append.mpr ⟨by decide, oneLine_natText _⟩
  · exact oneLine_natText _

theorem oneLine_zeros (n : Nat) : OneLine (zeros n) := by
  refine oneLine_ofList.mpr fun h => ?_
  exact absurd (List.eq_of_mem_replicate h) (by decide)

theorem oneLine_positional (d : Decimal) : OneLine (positional d) := by
  have hdigits := newline_not_mem_toDigits d.digits
  have htake : ∀ k, '\n' ∉ (Nat.toDigits 10 d.digits).take k :=
    fun k h => hdigits (List.mem_of_mem_take h)
  have hdrop : ∀ k, '\n' ∉ (Nat.toDigits 10 d.digits).drop k :=
    fun k h => hdigits (List.mem_of_mem_drop h)
  unfold positional
  dsimp only
  split
  · simp only [oneLine_append, oneLine_ofList]
    exact ⟨⟨by decide, oneLine_zeros _⟩, hdigits⟩
  · split
    · simp only [oneLine_append, oneLine_ofList]
      exact ⟨⟨hdigits, oneLine_zeros _⟩, by decide⟩
    · simp only [oneLine_append, oneLine_ofList]
      exact ⟨⟨htake _, by decide⟩, hdrop _⟩

theorem oneLine_scientific (d : Decimal) : OneLine (scientific layout d) := by
  have hdigits := newline_not_mem_toDigits d.digits
  have htake : ∀ k, '\n' ∉ (Nat.toDigits 10 d.digits).take k :=
    fun k h => hdigits (List.mem_of_mem_take h)
  have hdrop : ∀ k, '\n' ∉ (Nat.toDigits 10 d.digits).drop k :=
    fun k h => hdigits (List.mem_of_mem_drop h)
  unfold scientific
  simp only [oneLine_append, oneLine_ofList]
  refine ⟨⟨⟨htake _, ?_⟩, ?_⟩, oneLine_natText _⟩
  · split
    · decide
    · exact oneLine_append.mpr ⟨by decide, oneLine_ofList.mpr (hdrop _)⟩
  · split <;> decide

theorem oneLine_doubleText (x : Binary64) : OneLine (doubleText layout x) := by
  have hmagnitude : OneLine (if x.isZero then "0.0" else
      if layout.positionalFrom ≤ x.shortest.point - 1 &&
          x.shortest.point - 1 < layout.scientificFrom then positional x.shortest
      else scientific layout x.shortest) := by
    split
    · decide
    · split
      · exact oneLine_positional _
      · exact oneLine_scientific _
  unfold doubleText
  dsimp only
  split
  · exact oneLine_append.mpr ⟨by decide, hmagnitude⟩
  · exact hmagnitude

/-- **The text of a number is one line.** -/
theorem oneLine_text (n : Number) : OneLine n.text := by
  cases n with
  | integer i => exact oneLine_intText i.val
  | double x => exact oneLine_doubleText x

end Number

/-! ### Values -/

namespace Json

open Text (OneLine oneLine_append oneLine_ofList)

/-- **A line feed is escaped**, and no escape holds one. -/
theorem newline_not_mem_escapeChar (c : Char) : '\n' ∉ escapeChar c := by
  have hdigit : ∀ n, hexDigit n ≠ '\n' := by
    intro n
    have hdigits : ∀ k < 16, Nat.digitChar k ≠ '\n' := by decide
    exact hdigits (n % 16) (Nat.mod_lt n (by omega))
  have hhex : '\n' ∉ ['\\', 'u', '0', '0', hexDigit (c.toNat / 16), hexDigit c.toNat] := by
    simp [(hdigit _).symm]
  unfold escapeChar
  split
  · decide
  split
  · decide
  split
  · decide
  split
  · decide
  split
  · decide
  split
  · decide
  split
  · decide
  split
  · exact hhex
  · rename_i hnewline _ _ _
    have hne : c ≠ '\n' := by simpa using hnewline
    exact fun h => hne (List.mem_singleton.mp h).symm

theorem oneLine_quote (s : String) : OneLine (quote s) := by
  refine oneLine_ofList.mpr ?_
  have hescaped : '\n' ∉ s.toList.flatMap escapeChar := by
    intro h
    obtain ⟨c, -, hc⟩ := List.mem_flatMap.mp h
    exact newline_not_mem_escapeChar c hc
  simpa using hescaped

mutual

/-- **The compact text of a value is one line.** -/
theorem oneLine_compact : ∀ v : Json, OneLine v.compact
  | .null => by decide
  | .bool b => by cases b <;> decide
  | .number n => n.oneLine_text
  | .string s => oneLine_quote s
  | .array items => by
    rw [compact]
    exact ((by decide : OneLine "[").append (oneLine_compactItems items)).append (by decide)
  | .object members => by
    rw [compact]
    exact ((by decide : OneLine "\x7b").append (oneLine_compactMembers members)).append (by decide)

theorem oneLine_compactItems : ∀ items : List Json, OneLine (compactItems items)
  | [] => by decide
  | [v] => oneLine_compact v
  | v :: w :: rest => by
    rw [compactItems]
    · exact ((oneLine_compact v).append (by decide)).append (oneLine_compactItems (w :: rest))
    · simp

theorem oneLine_compactMembers :
    ∀ members : List (String × Json), OneLine (compactMembers members)
  | [] => by decide
  | [(k, v)] => by
    rw [compactMembers]
    exact ((oneLine_quote k).append (by decide)).append (oneLine_compact v)
  | (k, v) :: w :: rest => by
    rw [compactMembers]
    · exact ((((oneLine_quote k).append (by decide)).append (oneLine_compact v)).append
        (by decide)).append (oneLine_compactMembers (w :: rest))
    · simp

end

end Json

/-- **The text of a document is one line**, whatever texts and keys it holds. -/
theorem Document.oneLine_text (d : Document) : Text.OneLine d.text := by
  rw [← compact_toJson]
  exact d.toJson.oneLine_compact

/-! ### Places -/

namespace Location

open Text (OneLine oneLine_append)

theorem oneLine_extend {parent : String} {step : Segment} (hparent : OneLine parent)
    (hstep : ∀ name, step = .field name → OneLine name) : OneLine (step.extend parent) := by
  cases step with
  | field name =>
    have hname : OneLine name := hstep name rfl
    rw [Segment.extend]
    split
    · exact hname
    · exact (hparent.append (by decide)).append hname
  | index i =>
    exact ((hparent.append (by decide)).append (Number.oneLine_natText i)).append (by decide)

/-- **The path of a place is one line**, if the names on the way are. -/
theorem oneLine_path {l : Location} (h : ∀ name, Segment.field name ∈ l → OneLine name) :
    OneLine l.path := by
  have hfold : ∀ parent, OneLine parent → OneLine (l.foldl Segment.extend parent) := by
    induction l with
    | nil => exact fun parent hparent => hparent
    | cons step rest ih =>
      intro parent hparent
      have hstep : ∀ name, step = .field name → OneLine name := by
        rintro name rfl
        exact h name List.mem_cons_self
      exact ih (fun name hname => h name (List.mem_cons_of_mem _ hname)) _
        (oneLine_extend hparent hstep)
  exact hfold "" (by decide)

end Location

end Conformance
