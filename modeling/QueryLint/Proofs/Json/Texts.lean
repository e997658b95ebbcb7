import Mathlib.Data.List.Induction
import Mathlib.Tactic.Common
import QueryLint.Json.Reader
import QueryLint.Proofs.Text.Literal

/-!
# Texts and their code points

Every list of code points is the list of one text, the one that the reader of JSON makes when it
meets them one after another (`codePoints_ofCodePoints`).  The texts that arise in this way are
`IsProper`: their halves stand in order and over replacement characters, so that equal code points
make equal texts (`IsProper.ext`).  Texts of characters only are proper.
-/

namespace QueryLint

namespace Json

/-! ### Texts in the making -/

namespace Draft

variable {d : Draft} {ps : List CodePoint} {p : CodePoint}

/-- The numbers of the code points so far. -/
def points (d : Draft) : List Nat :=
  d.halves.foldr (fun h ns => ns.set h.1 h.2) (d.chars.reverse.map Char.toNat)

/-- The draft is what has become of the code points. -/
structure Holds (d : Draft) (ps : List CodePoint) : Prop where
  size : d.size = ps.length
  chars : d.chars.length = ps.length
  places : ∀ h ∈ d.halves, h.1 < ps.length
  points : d.points = ps.map CodePoint.number

lemma length_foldr_set (halves : List (Nat × Nat)) (ns : List Nat) :
    (halves.foldr (fun h ns => ns.set h.1 h.2) ns).length = ns.length := by
  induction halves with
  | nil => rfl
  | cons half halves ih => rw [List.foldr_cons, List.length_set, ih]

/-- Halves are put in their places whatever is written behind. -/
lemma foldr_set_append {halves : List (Nat × Nat)} {ns : List Nat}
    (h : ∀ h ∈ halves, h.1 < ns.length) (behind : List Nat) :
    halves.foldr (fun h ns => ns.set h.1 h.2) (ns ++ behind)
      = halves.foldr (fun h ns => ns.set h.1 h.2) ns ++ behind := by
  induction halves with
  | nil => rfl
  | cons half halves ih =>
    rw [List.forall_mem_cons] at h
    rw [List.foldr_cons, List.foldr_cons, ih h.2, List.set_append_left]
    rw [length_foldr_set]
    exact h.1

lemma Holds.push (h : d.Holds ps) (p : CodePoint) : (d.push p).Holds (ps ++ [p]) := by
  have hplaces : ∀ half ∈ d.halves, half.1 < (d.chars.reverse.map Char.toNat).length := by
    simpa [h.chars] using h.places
  have hpoints (c : Char) : d.halves.foldr (fun h ns => ns.set h.1 h.2)
      ((c :: d.chars).reverse.map Char.toNat) = ps.map CodePoint.number ++ [c.toNat] := by
    rw [List.reverse_cons, List.map_append, foldr_set_append hplaces, ← h.points]
    rfl
  have hplaces' : ∀ half ∈ d.halves, half.1 < (ps ++ [p]).length := fun half hhalf => by
    rw [List.length_append]
    exact Nat.lt_add_right _ (h.places half hhalf)
  cases p with
  | char c =>
    exact {
      size := by simp [Draft.push, h.size]
      chars := by simp [Draft.push, h.chars]
      places := hplaces'
      points := by
        rw [Draft.push, Draft.points, hpoints, List.map_append]
        rfl }
  | half n hn =>
    exact {
      size := by simp [Draft.push, h.size]
      chars := by simp [Draft.push, h.chars]
      places := List.forall_mem_cons.mpr ⟨by simp [h.size], hplaces'⟩
      points := by
        rw [Draft.push, Draft.points, List.foldr_cons, hpoints, h.size, List.map_append,
          List.set_append_right _ _ (by simp)]
        simp [CodePoint.number] }

lemma holds_foldl (ps : List CodePoint) : (ps.foldl push {}).Holds ps := by
  induction ps using List.reverseRecOn with
  | nil => exact ⟨rfl, rfl, fun _ h => absurd h List.not_mem_nil, rfl⟩
  | append_singleton ps p ih =>
    rw [List.foldl_append]
    exact ih.push p

lemma points_finish (d : Draft) : d.finish.points = d.points := by
  rw [finish, Text.points, String.toList_ofList, List.foldl_reverse, points]

end Draft

/-! ### Proper texts -/

namespace Text

/-- The text of a list of code points. -/
def ofCodePoints (ps : List CodePoint) : Text :=
  (ps.foldl Draft.push {}).finish

/-- No code point is lost or changed in the text. -/
theorem codePoints_ofCodePoints (ps : List CodePoint) : (ofCodePoints ps).codePoints = ps := by
  rw [codePoints, ofCodePoints, Draft.points_finish, (Draft.holds_foldl ps).points, List.map_map]
  exact (List.map_congr_left fun p _ => p.ofNat_number).trans (List.map_id ps)

/-- A text that its code points make. -/
def IsProper (t : Text) : Prop :=
  ofCodePoints t.codePoints = t

lemma isProper_ofCodePoints (ps : List CodePoint) : (ofCodePoints ps).IsProper := by
  rw [IsProper, codePoints_ofCodePoints]

lemma codePoints_coe (s : String) : (s : Text).codePoints = CodePoint.ofChars s.toList := by
  simp [codePoints, points, CodePoint.ofChars]

/-- Texts of characters only are proper. -/
lemma isProper_coe (s : String) : (s : Text).IsProper := by
  have hpush (cs : List Char) (d : Draft) : (CodePoint.ofChars cs).foldl Draft.push d
      = ⟨d.size + cs.length, cs.reverse ++ d.chars, d.halves⟩ := by
    induction cs generalizing d with
    | nil => rfl
    | cons c cs ih =>
      rw [CodePoint.ofChars, List.map_cons, List.foldl_cons]
      refine (ih _).trans ?_
      simp [Draft.push]
      omega
  rw [IsProper, codePoints_coe, ofCodePoints, hpush]
  simp [Draft.finish]

variable {t t' : Text}

/-- Proper texts with the same code points are equal. -/
lemma IsProper.ext (h : t.IsProper) (h' : t'.IsProper) (heq : t.codePoints = t'.codePoints) :
    t = t' := by
  rw [← h, ← h', heq]

lemma IsProper.eq_empty (h : t.IsProper) (hchars : t.chars = "") : t = ("" : Text) := by
  refine h.ext (isProper_coe "") (List.eq_nil_of_length_eq_zero ?_)
  rw [codePoints, List.length_map, points, hchars, ← List.foldr_reverse, Draft.length_foldr_set]
  rfl

end Text

end Json

end QueryLint
