import Mathlib.Tactic.Common
import QueryLint.Schema.Object

/-!
# Checks that come out well

When a check gives a value, for each way of putting checks together, for single values, for fields
and for lists.  The lemmas named `…_of_lookup`, `items_map` and `list_map` run a check forwards, from
what stands in an object to the value; those named `…_eq_ok` and `…_of_required` go back from the
value to what was checked.
-/

namespace QueryLint

namespace Check

variable {α β : Type} {a : α} {b : β}

@[simp]
lemma map_ok (f : α → β) (a : α) : (ok a).map f = ok (f a) := rfl

@[simp]
lemma bind_ok (a : α) (f : α → Check β) : (ok a).bind f = f a := rfl

@[simp]
lemma both_ok (a : α) (b : β) : (ok a).both (ok b) = ok (a, b) := rfl

@[simp]
lemma under_ok (step : PathStep) (a : α) : (ok a).under step = ok a := rfl

lemma map_eq_ok {f : α → β} {c : Check α} : c.map f = .ok b ↔ ∃ a, c = .ok a ∧ f a = b := by
  cases c <;> simp [Check.map]

lemma under_eq_ok {step : PathStep} {c : Check α} : under step c = .ok a ↔ c = .ok a := by
  cases c <;> simp [under]

lemma bind_eq_ok {c : Check α} {f : α → Check β} :
    c.bind f = .ok b ↔ ∃ a, c = .ok a ∧ f a = .ok b := by
  cases c <;> simp [Check.bind]

lemma both_eq_ok {c : Check α} {c' : Check β} :
    c.both c' = .ok (a, b) ↔ c = .ok a ∧ c' = .ok b := by
  cases c <;> cases c' <;> simp [both]

end Check

namespace Schema

/-! ### Single values -/

lemma text_str (s : String) : text (.str s) = .ok s := rfl

lemma nonEmptyText_str {s : String} (h : s ≠ "") : nonEmptyText (.str s) = .ok s := by
  simp [nonEmptyText, Json.Text.isWhole, h]

lemma ne_empty_of_nonEmptyText {j : Json} {t : String} (h : nonEmptyText j = .ok t) : t ≠ "" := by
  unfold nonEmptyText at h
  split at h
  next t' =>
    split at h
    · cases h
    · split at h
      next => cases h
      next hne =>
        cases h
        exact fun heq => hne (String.isEmpty_iff.mpr heq)
  next => cases h

lemma natural_nat (n : Nat) : natural (.nat n) = .ok n := by
  have hn : ¬ (n : Int) < 0 := by omega
  simp [natural, Json.nat, integer, hn]

/-! ### Fields -/

section

variable {α : Type} {name : FieldName} {check : Json → Check α} {fields : Fields} {found : String}
  {j : Json} {a default : α}

lemma object_obj (fields : Fields) : object (.obj fields) = .ok fields := rfl

lemma required_of_lookup (h : lookup fields name = some (found, j)) (hj : check j = .ok a) :
    required name check fields = .ok a := by
  simp [required, h, hj]

lemma optional_of_lookup (h : lookup fields name = some (found, j)) (hj : check j = .ok a) :
    Schema.optional name default check fields = .ok a := by
  simp [Schema.optional, h, hj]

lemma exists_of_required (h : required name check fields = .ok a) : ∃ j, check j = .ok a := by
  unfold required at h
  split at h
  next found j _ => exact ⟨j, Check.under_eq_ok.mp h⟩
  next => cases h

lemma ne_empty_of_required {t : String} (h : required name nonEmptyText fields = .ok t) :
    t ≠ "" := by
  obtain ⟨j, hj⟩ := exists_of_required h
  exact ne_empty_of_nonEmptyText hj

end

/-! ### Lists -/

section

variable {α : Type} {check : Json → Check α} {write : α → Json} {as : List α}

lemma items_map (h : ∀ a ∈ as, check (write a) = .ok a) (index : Nat) :
    Check.items check index (as.map write) = .ok as := by
  induction as generalizing index with
  | nil => rfl
  | cons a as ih =>
    obtain ⟨ha, has⟩ := List.forall_mem_cons.mp h
    simp [Check.items, ha, ih has]

/-- A list is read back if its items are. -/
lemma list_map (h : ∀ a, check (write a) = .ok a) (as : List α) :
    list check (.arr (as.map write)) = .ok as :=
  items_map (fun a _ => h a) 0

end

end Schema

end QueryLint
