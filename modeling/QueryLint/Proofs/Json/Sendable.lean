import Mathlib.Data.List.TakeWhile
import Mathlib.Tactic.Common
import QueryLint.Json.Writer

/-!
# Values that can be sent

`Json.Sendable` describes, by the shape of a value, what is safe to send: texts of characters only,
no numbers with a fraction, not too many levels.  Nothing keeps such a value from being sent
(`Sendable.writeError?_eq_none`): no level is too deep, and nothing that is written for it has half
of a surrogate pair in it, since escapes and punctuation are made of characters (`HalfFree`).
-/

namespace QueryLint

namespace Json

/-- A value made of texts without lone halves and of whole numbers, with at most the given number of
levels of arrays and objects. -/
inductive Sendable : Nat → Json → Prop
  | null {levels : Nat} : Sendable levels .null
  | bool {levels : Nat} (b : Bool) : Sendable levels (.bool b)
  | int {levels : Nat} (n : Int) : Sendable levels (.int n)
  | str {levels : Nat} {t : Text} : t.isWhole = true → Sendable levels (.str t)
  | arr {levels : Nat} {items : List Json} : (∀ j ∈ items, Sendable levels j) →
      Sendable (levels + 1) (.arr items)
  | obj {levels : Nat} {fields : Fields} : (∀ f ∈ fields, f.1.isWhole = true) →
      (∀ f ∈ fields, Sendable levels f.2) → Sendable (levels + 1) (.obj fields)

/-- No code point is half of a surrogate pair. -/
def HalfFree (ps : List Nat) : Prop :=
  ∀ n ∈ ps, CodePoint.isHalf n = false

/-! ### Code points without halves -/

namespace HalfFree

variable {ps qs : List Nat}

lemma map_toNat (cs : List Char) : HalfFree (cs.map Char.toNat) := by
  intro n hn
  obtain ⟨c, -, rfl⟩ := List.mem_map.mp hn
  exact CodePoint.isHalf_toNat c

lemma ascii (s : String) : HalfFree (Json.ascii s) :=
  map_toNat s.toList

lemma append (hp : HalfFree ps) (hq : HalfFree qs) : HalfFree (ps ++ qs) := by
  intro n hn
  exact (List.mem_append.mp hn).elim (hp n) (hq n)

lemma intercalate (hp : HalfFree ps) {parts : List (List Nat)} (h : ∀ part ∈ parts, HalfFree part) :
    HalfFree (ps.intercalate parts) := by
  induction parts with
  | nil => exact fun n hn => absurd hn List.not_mem_nil
  | cons part rest ih =>
    cases rest with
    | nil =>
      rw [List.intercalate_singleton]
      exact h part List.mem_cons_self
    | cons next rest =>
      rw [List.intercalate_cons_cons]
      exact ((h part List.mem_cons_self).append hp).append
        (ih fun part hpart => h part (List.mem_cons_of_mem _ hpart))

lemma points {t : Text} (h : t.isWhole = true) : HalfFree t.points := by
  rw [Text.points, List.isEmpty_iff.mp h]
  exact map_toNat _

lemma escapePoint {n : Nat} (h : CodePoint.isHalf n = false) : HalfFree (Json.escapePoint n) := by
  unfold Json.escapePoint
  split_ifs
  case neg => simpa [HalfFree] using h
  all_goals first | exact ascii _ | exact (ascii _).append (map_toNat _)

lemma quotePoints {t : Text} (h : t.isWhole = true) : HalfFree (Json.quotePoints t) := by
  refine ((ascii _).append fun n hn => ?_).append (ascii _)
  obtain ⟨m, hm, hn⟩ := List.mem_flatMap.mp hn
  exact escapePoint (points h m hm) n hn

/-- There is no run of halves to be found. -/
theorem loneHalves?_eq_none (h : HalfFree ps) : loneHalves? ps = none := by
  have hall : ps.takeWhile (fun n => !CodePoint.isHalf n) = ps :=
    List.takeWhile_eq_self_iff.mpr fun n hn => by simp [h n hn]
  simp only [loneHalves?, hall, List.drop_length, List.takeWhile_nil]

end HalfFree

/-! ### Values -/

lemma unwrittenItem?_eq_none {levels : Nat} {items : List Json}
    (h : ∀ j ∈ items, unwritten? levels j = none) : unwrittenItem? levels items = none := by
  induction items with
  | nil => rfl
  | cons j rest ih =>
    rw [List.forall_mem_cons] at h
    rw [unwrittenItem?, h.1, ih h.2]
    rfl

lemma unwrittenField?_eq_none {levels : Nat} {fields : Fields}
    (h : ∀ f ∈ fields, unwritten? levels f.2 = none) : unwrittenField? levels fields = none := by
  induction fields with
  | nil => rfl
  | cons f rest ih =>
    rw [List.forall_mem_cons] at h
    rw [unwrittenField?, h.1, ih h.2]
    rfl

lemma itemPoints_eq_map (items : List Json) : itemPoints items = items.map points := by
  induction items with
  | nil => rfl
  | cons j rest ih => rw [itemPoints, ih, List.map_cons]

lemma fieldPoints_eq_map (fields : Fields) :
    fieldPoints fields = fields.map fun f => quotePoints f.1 ++ ascii ":" ++ f.2.points := by
  induction fields with
  | nil => rfl
  | cons f rest ih => rw [fieldPoints, ih, List.map_cons]

namespace Sendable

variable {levels : Nat} {j : Json}

lemma unwritten?_eq_none (h : Sendable levels j) : unwritten? levels j = none := by
  induction h with
  | null | bool | int | str => simp only [unwritten?]
  | arr _ ih => exact unwrittenItem?_eq_none ih
  | obj _ _ ih => exact unwrittenField?_eq_none ih

lemma halfFree_points (h : Sendable levels j) : HalfFree j.points := by
  induction h with
  | null | bool | int => exact .ascii _
  | str ht => exact .quotePoints ht
  | arr _ ih =>
    rw [points, itemPoints_eq_map]
    refine ((HalfFree.ascii _).append (.intercalate (.ascii _) ?_)).append (.ascii _)
    exact List.forall_mem_map.mpr ih
  | obj hkeys _ ih =>
    rw [points, fieldPoints_eq_map]
    refine ((HalfFree.ascii _).append (.intercalate (.ascii _) ?_)).append (.ascii _)
    exact List.forall_mem_map.mpr fun f hf =>
      ((HalfFree.quotePoints (hkeys f hf)).append (.ascii _)).append (ih f hf)

/-- Nothing keeps such a value from being sent. -/
theorem writeError?_eq_none (h : Sendable maxWrittenDepth j) : j.writeError? = none := by
  rw [writeError?, h.unwritten?_eq_none, h.halfFree_points.loneHalves?_eq_none]
  rfl

/-! ### Building values -/

@[simp]
lemma text (s : String) : Sendable levels (.str s) :=
  .str rfl

@[simp]
lemma number (n : Int) : Sendable levels (.int n) :=
  .int n

@[simp]
lemma natural (n : Nat) : Sendable levels (.nat n) :=
  .int n

@[simp]
lemma flag (b : Bool) : Sendable levels (.bool b) :=
  .bool b

@[simp]
lemma array_iff {items : List Json} :
    Sendable (levels + 1) (.arr items) ↔ ∀ j ∈ items, Sendable levels j := by
  refine ⟨fun h => ?_, .arr⟩
  cases h with
  | arr hitems => exact hitems

@[simp]
lemma object_iff {fields : Fields} :
    Sendable (levels + 1) (.obj fields)
      ↔ ∀ f ∈ fields, f.1.isWhole = true ∧ Sendable levels f.2 := by
  refine ⟨fun h => ?_, fun h => .obj (fun f hf => (h f hf).1) fun f hf => (h f hf).2⟩
  cases h with
  | obj hkeys hvalues => exact fun f hf => ⟨hkeys f hf, hvalues f hf⟩

end Sendable

end Json

end QueryLint
