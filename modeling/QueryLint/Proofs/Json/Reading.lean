import QueryLint.Proofs.Json.Texts

/-!
# What is read

The texts of a value that is read are proper, names of fields included (`isProper_of_read`).  A text
comes out of a draft that code points have made one after another; a value is put together from
such texts, and the readers of values, items and fields call each other in fewer steps each time.
-/

namespace QueryLint

namespace Json

/-! ### Texts that are read -/

/-- A draft that code points make. -/
def Draft.IsProper (d : Draft) : Prop :=
  ∃ ps : List CodePoint, d = ps.foldl Draft.push {}

namespace Draft.IsProper

variable {d : Draft}

lemma push (h : d.IsProper) (p : CodePoint) : (d.push p).IsProper := by
  obtain ⟨ps, rfl⟩ := h
  exact ⟨ps ++ [p], by rw [List.foldl_append]; rfl⟩

lemma finish (h : d.IsProper) : d.finish.IsProper := by
  obtain ⟨ps, rfl⟩ := h
  exact Text.isProper_ofCodePoints ps

end Draft.IsProper

variable {ps rest : List CodePoint} {levels : Nat} {j : Json}

/-- A text that is read is proper, whatever has been read of it before. -/
lemma isProper_of_readChars? {d : Draft} {t : Text} (hd : d.IsProper)
    (hread : readChars? d ps = some (t, rest)) : t.IsProper := by
  fun_induction readChars? d ps with
  | case1 => cases hread
  | case2 d n h ps ih => exact ih (hd.push _) hread
  | case3 d ps =>
    cases hread
    exact hd.finish
  | case4 => cases hread
  | case5 d c ps _ _ n size _ ih => exact ih (hd.push _) hread
  | case6 => cases hread
  | case7 d c ps _ _ _ ih => exact ih (hd.push _) hread

/-! ### Values that are read -/

/-- A value whose texts are proper, names of fields included. -/
inductive IsProper : Json → Prop
  | null : IsProper .null
  | bool (b : Bool) : IsProper (.bool b)
  | int (n : Int) : IsProper (.int n)
  | decimal (d : Decimal) : IsProper (.decimal d)
  | str {t : Text} : t.IsProper → IsProper (.str t)
  | arr {items : List Json} : (∀ j ∈ items, IsProper j) → IsProper (.arr items)
  | obj {fields : Fields} : (∀ f ∈ fields, f.1.IsProper) → (∀ f ∈ fields, IsProper f.2) →
      IsProper (.obj fields)

lemma IsProper.text {t : Text} (h : IsProper (.str t)) : t.IsProper := by
  cases h with
  | str ht => exact ht

lemma isProper_of_readMagnitude {negative : Bool} :
    readMagnitude negative ps = .ok (j, rest) → j.IsProper := by
  fun_cases readMagnitude negative ps with
  | case1 | case2 => rintro ⟨⟩
  | case3 =>
    rintro ⟨⟩
    exact .int _
  | case4 =>
    rintro ⟨⟩
    exact .decimal _

lemma isProper_of_readScalar : readScalar levels ps = .ok (j, rest) → j.IsProper := by
  fun_cases readScalar levels ps with
  | case1 => rintro ⟨⟩
  | case2 _ t r hchars =>
    rintro ⟨⟩
    exact .str (isProper_of_readChars? ⟨[], rfl⟩ hchars)
  | case3 =>
    rintro ⟨⟩
    exact .decimal _
  | case4 => exact isProper_of_readMagnitude
  | case5 ps words found hfound =>
    rw [hfound]
    rintro ⟨⟩
    obtain ⟨⟨word, value⟩, hmem, hword⟩ := List.exists_of_findSome?_eq_some hfound
    obtain ⟨r, -, heq⟩ := Option.map_eq_some_iff.mp hword
    cases heq
    simp only [words, List.mem_cons, Prod.mk.injEq, List.not_mem_nil, or_false] at hmem
    rcases hmem with ⟨-, rfl⟩ | ⟨-, rfl⟩ | ⟨-, rfl⟩ | ⟨-, rfl⟩ | ⟨-, rfl⟩ <;> constructor
  | case6 ps words hnone =>
    rw [hnone]
    exact isProper_of_readMagnitude

lemma forall_mem_putField {fields : Fields} {key : Text} {value : Json}
    (h : ∀ f ∈ fields, f.1.IsProper ∧ f.2.IsProper) (hkey : key.IsProper)
    (hvalue : value.IsProper) :
    ∀ f ∈ putField fields key value, f.1.IsProper ∧ f.2.IsProper := by
  rw [putField]
  split_ifs
  · refine List.forall_mem_map.mpr fun f hf => ?_
    split_ifs
    · exact ⟨hkey, hvalue⟩
    · exact h f hf
  · rw [List.forall_mem_append, List.forall_mem_singleton]
    exact ⟨h, hkey, hvalue⟩

/-- What is read in a number of steps is proper, when what has been read before is. -/
structure ReadsProper (fuel : Nat) : Prop where
  value {levels : Nat} {ps rest : List CodePoint} {j : Json} :
    readValue fuel levels ps = .ok (j, rest) → j.IsProper
  items {levels : Nat} {ps rest : List CodePoint} {acc items : List Json} :
    (∀ j ∈ acc, j.IsProper) → readItems fuel levels acc ps = .ok (items, rest) →
    ∀ j ∈ items, j.IsProper
  fields {levels : Nat} {ps rest : List CodePoint} {acc fields : Fields} :
    (∀ f ∈ acc, f.1.IsProper ∧ f.2.IsProper) → readFields fuel levels acc ps = .ok (fields, rest) →
    ∀ f ∈ fields, f.1.IsProper ∧ f.2.IsProper

namespace ReadsProper

variable {fuel : Nat}

lemma value_of_fewer (h : ∀ fewer < fuel, ReadsProper fewer) :
    readValue fuel levels ps = .ok (j, rest) → j.IsProper := by
  fun_cases readValue fuel levels ps with
  | case1 | case2 | case3 => rintro ⟨⟩
  | case4 =>
    rintro ⟨⟩
    exact .arr (List.forall_mem_nil _)
  | case5 fuel rest levels =>
    cases hitems : readItems fuel levels [] (skipBlanks rest) with
    | error e => rintro ⟨⟩
    | ok found =>
      rintro ⟨⟩
      have hfewer := h fuel (Nat.lt_succ_self fuel)
      exact .arr (hfewer.items (List.forall_mem_nil _) hitems)
  | case6 =>
    rintro ⟨⟩
    exact .obj (List.forall_mem_nil _) (List.forall_mem_nil _)
  | case7 fuel rest levels =>
    cases hfields : readFields fuel levels [] (skipBlanks rest) with
    | error e => rintro ⟨⟩
    | ok found =>
      rintro ⟨⟩
      have hfewer := h fuel (Nat.lt_succ_self fuel)
      have hproper := hfewer.fields (List.forall_mem_nil _) hfields
      exact .obj (fun f hf => (hproper f hf).1) fun f hf => (hproper f hf).2
  | case8 => exact isProper_of_readScalar

lemma items_of_fewer (h : ∀ fewer < fuel, ReadsProper fewer) {acc items : List Json}
    (hacc : ∀ j ∈ acc, j.IsProper) :
    readItems fuel levels acc ps = .ok (items, rest) → ∀ j ∈ items, j.IsProper := by
  fun_cases readItems fuel levels acc ps with
  | case1 | case2 | case5 => rintro ⟨⟩
  | case3 fuel levels acc ps item _ hitem =>
    rintro ⟨⟩
    have hitem := (h fuel (Nat.lt_succ_self fuel)).value hitem
    exact fun j hj => List.forall_mem_cons.mpr ⟨hitem, hacc⟩ j (List.mem_reverse.mp hj)
  | case4 fuel levels acc ps item _ hitem =>
    have hfewer := h fuel (Nat.lt_succ_self fuel)
    exact hfewer.items (List.forall_mem_cons.mpr ⟨hfewer.value hitem, hacc⟩)

lemma fields_of_fewer (h : ∀ fewer < fuel, ReadsProper fewer) {acc fields : Fields}
    (hacc : ∀ f ∈ acc, f.1.IsProper ∧ f.2.IsProper) :
    readFields fuel levels acc ps = .ok (fields, rest) →
    ∀ f ∈ fields, f.1.IsProper ∧ f.2.IsProper := by
  fun_cases readFields fuel levels acc ps with
  | case1 | case2 | case3 | case6 | case7 | case8 => rintro ⟨⟩
  | case4 fuel levels acc _ key _ hkey _ _ value _ hvalue =>
    rintro ⟨⟩
    exact forall_mem_putField hacc (isProper_of_readChars? ⟨[], rfl⟩ hkey)
      ((h fuel (Nat.lt_succ_self fuel)).value hvalue)
  | case5 fuel levels acc _ key _ hkey _ _ value _ hvalue =>
    have hfewer := h fuel (Nat.lt_succ_self fuel)
    exact hfewer.fields <| forall_mem_putField hacc (isProper_of_readChars? ⟨[], rfl⟩ hkey)
      (hfewer.value hvalue)

end ReadsProper

/-- What is read is proper, however many steps and levels are allowed. -/
lemma readsProper (fuel : Nat) : ReadsProper fuel := by
  induction fuel using Nat.strong_induction_on with
  | _ fuel ih =>
    exact {
      value := ReadsProper.value_of_fewer ih
      items := ReadsProper.items_of_fewer ih
      fields := ReadsProper.fields_of_fewer ih }

/-- The texts of a value that is read are proper, names of fields included. -/
theorem isProper_of_read : read ps = .ok j → j.IsProper := by
  rw [read]
  fun_cases readWithin maxDepth ps with
  | case1 | case3 => rintro ⟨⟩
  | case2 value _ hvalue =>
    rintro ⟨⟩
    exact (readsProper _).value hvalue

end Json

end QueryLint
