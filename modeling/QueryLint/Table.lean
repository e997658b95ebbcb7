/-!
# Tables

Finite maps that remember the order in which their keys came in: a new key goes to the end, a key
that is already there keeps its place.  No key occurs twice.

`get?_insert` and `get?_erase` say what the operations do to the values, `keys_insert_of_mem`,
`keys_insert_of_notMem` and `keys_erase` what they do to the keys and their order.  What holds of
all values stays true under both (`forall_get?_insert`, `forall_get?_erase`).
-/

namespace QueryLint

/-- A finite map in order of insertion. -/
structure Table (κ : Type) (α : Type) where
  entries : List (κ × α)
  nodup : (entries.map Prod.fst).Nodup

namespace Table

variable {κ α : Type} [DecidableEq κ]

/-- The table without entries. -/
def empty : Table κ α where
  entries := []
  nodup := by simp

instance : Inhabited (Table κ α) := ⟨empty⟩

/-- The keys, in order of insertion. -/
def keys (t : Table κ α) : List κ :=
  t.entries.map Prod.fst

/-- The values, in order of insertion of their keys. -/
def values (t : Table κ α) : List α :=
  t.entries.map Prod.snd

/-- Number of keys. -/
def size (t : Table κ α) : Nat :=
  t.entries.length

/-- Whether there is no key. -/
def isEmpty (t : Table κ α) : Bool :=
  t.entries.isEmpty

/-- The value of a key. -/
def get? (t : Table κ α) (k : κ) : Option α :=
  (t.entries.find? fun e => e.1 = k).map Prod.snd

/-- Whether the key has a value. -/
def contains (t : Table κ α) (k : κ) : Bool :=
  k ∈ t.keys

/-- Replaces the value of a key where it stands, or adds the key at the end. -/
def insert (t : Table κ α) (k : κ) (a : α) : Table κ α :=
  if h : k ∈ t.entries.map Prod.fst then
    { entries := t.entries.map fun e => if e.1 = k then (k, a) else e
      nodup := by
        have same : (t.entries.map fun e => if e.1 = k then (k, a) else e).map Prod.fst
            = t.entries.map Prod.fst := by
          rw [List.map_map]
          apply List.map_congr_left
          intro e _
          by_cases he : e.1 = k <;> simp [he]
        rw [same]
        exact t.nodup }
  else
    { entries := t.entries ++ [(k, a)]
      nodup := by
        rw [List.map_append, List.nodup_append]
        refine ⟨t.nodup, by simp, ?_⟩
        intro x hx y hy hxy
        simp only [List.map_cons, List.map_nil, List.mem_singleton] at hy
        exact h (hy ▸ hxy ▸ hx) }

/-- Changes the value of a key, starting from a default if the key is new. -/
def adjust (t : Table κ α) (k : κ) (default : α) (f : α → α) : Table κ α :=
  t.insert k (f ((t.get? k).getD default))

/-- The table without a key. -/
def erase (t : Table κ α) (k : κ) : Table κ α where
  entries := t.entries.filter fun e => e.1 ≠ k
  nodup := t.nodup.sublist (List.filter_sublist.map Prod.fst)

/-! ### Values after an operation -/

@[simp]
theorem get?_empty (k : κ) : (empty : Table κ α).get? k = none := rfl

theorem find?_key_eq_none_iff {l : List (κ × α)} {k : κ} :
    l.find? (fun e => e.1 = k) = none ↔ k ∉ l.map Prod.fst := by
  induction l with
  | nil => simp
  | cons e l ih =>
    by_cases h : e.1 = k
    · simp [h]
    · have h' : k ≠ e.1 := fun hk => h hk.symm
      rw [List.find?_cons_of_neg (by simp [h]), ih]
      simp [h']

theorem get?_eq_none_iff {t : Table κ α} {k : κ} : t.get? k = none ↔ k ∉ t.keys := by
  rw [get?, Option.map_eq_none_iff, find?_key_eq_none_iff, keys]

theorem contains_iff {t : Table κ α} {k : κ} : t.contains k = true ↔ k ∈ t.keys := by
  simp [contains]

theorem isSome_get? (t : Table κ α) (k : κ) : (t.get? k).isSome = t.contains k := by
  cases h : t.get? k with
  | none =>
    have hk := get?_eq_none_iff.mp h
    simp [contains, hk]
  | some a =>
    have hk : k ∈ t.keys := Decidable.not_not.mp fun hn => by
      rw [get?_eq_none_iff.mpr hn] at h
      exact absurd h (by simp)
    simp [contains, hk]

theorem mem_keys_iff {t : Table κ α} {k : κ} : k ∈ t.keys ↔ ∃ a, t.get? k = some a := by
  rw [← contains_iff, ← isSome_get?, Option.isSome_iff_exists]

theorem find?_replace (l : List (κ × α)) (k k' : κ) (a : α) :
    (l.map fun e => if e.1 = k then (k, a) else e).find? (fun e => e.1 = k')
      = if k' = k then (l.find? fun e => e.1 = k).map fun _ => (k, a)
        else l.find? fun e => e.1 = k' := by
  induction l with
  | nil => by_cases hk : k' = k <;> simp [hk]
  | cons e l ih =>
    by_cases he : e.1 = k
    · by_cases hk : k' = k
      · simp [he, hk]
      · have hk' : k ≠ k' := fun h => hk h.symm
        rw [if_neg hk] at ih ⊢
        simp [he, hk', ih]
    · by_cases hk : k' = k
      · rw [if_pos hk] at ih ⊢
        subst hk
        simp [he, ih]
      · rw [if_neg hk] at ih ⊢
        rw [List.map_cons, if_neg he]
        by_cases hek : e.1 = k'
        · rw [List.find?_cons_of_pos (by simp [hek]), List.find?_cons_of_pos (by simp [hek])]
        · rw [List.find?_cons_of_neg (by simp [hek]), List.find?_cons_of_neg (by simp [hek]), ih]

/-- **Insertion.**  The new value under its key, the old ones under the others. -/
theorem get?_insert (t : Table κ α) (k k' : κ) (a : α) :
    (t.insert k a).get? k' = if k' = k then some a else t.get? k' := by
  unfold insert
  split
  next h =>
    simp only [get?, find?_replace]
    by_cases hk : k' = k
    · have hs : t.entries.find? (fun e => e.1 = k) ≠ none := fun hn =>
        find?_key_eq_none_iff.mp hn h
      obtain ⟨e, he⟩ := Option.ne_none_iff_exists'.mp hs
      simp [hk, he]
    · simp [hk]
  next h =>
    simp only [get?, List.find?_append]
    by_cases hk : k' = k
    · subst hk
      have hn : t.entries.find? (fun e => e.1 = k') = none := find?_key_eq_none_iff.mpr h
      simp [hn]
    · have hk' : k ≠ k' := fun hh => hk hh.symm
      simp [hk, hk']

@[simp]
theorem get?_insert_self (t : Table κ α) (k : κ) (a : α) : (t.insert k a).get? k = some a := by
  simp [get?_insert]

theorem get?_insert_of_ne (t : Table κ α) {k k' : κ} (a : α) (h : k' ≠ k) :
    (t.insert k a).get? k' = t.get? k' := by
  simp [get?_insert, h]

/-- **Removal.**  No value under the key, the old ones under the others. -/
theorem get?_erase (t : Table κ α) (k k' : κ) :
    (t.erase k).get? k' = if k' = k then none else t.get? k' := by
  simp only [erase, get?, List.find?_filter]
  by_cases hk : k' = k
  · subst hk
    simp
  · rw [if_neg hk]
    congr 2
    funext e
    by_cases he : e.1 = k'
    · simp [he, hk]
    · simp [he]

@[simp]
theorem get?_erase_self (t : Table κ α) (k : κ) : (t.erase k).get? k = none := by
  simp [get?_erase]

theorem get?_erase_of_ne (t : Table κ α) {k k' : κ} (h : k' ≠ k) :
    (t.erase k).get? k' = t.get? k' := by
  simp [get?_erase, h]

theorem get?_adjust (t : Table κ α) (k k' : κ) (default : α) (f : α → α) :
    (t.adjust k default f).get? k'
      = if k' = k then some (f ((t.get? k).getD default)) else t.get? k' :=
  get?_insert t k k' _

/-! ### What holds of all values -/

section

variable {t : Table κ α} {P : κ → α → Prop} {k : κ} {a : α}

theorem forall_get?_insert (h : ∀ k a, t.get? k = some a → P k a) (ha : P k a) :
    ∀ k' a', (t.insert k a).get? k' = some a' → P k' a' := by
  intro k' a' hget
  rw [get?_insert] at hget
  split at hget
  next heq =>
    subst heq
    cases hget
    exact ha
  next => exact h k' a' hget

theorem forall_get?_erase (h : ∀ k a, t.get? k = some a → P k a) :
    ∀ k' a', (t.erase k).get? k' = some a' → P k' a' := by
  intro k' a' hget
  rw [get?_erase] at hget
  split at hget
  · cases hget
  · exact h k' a' hget

end

/-! ### Keys after an operation -/

omit [DecidableEq κ] in
theorem nodup_keys (t : Table κ α) : t.keys.Nodup := t.nodup

theorem keys_insert_of_mem {t : Table κ α} {k : κ} (a : α) (h : k ∈ t.keys) :
    (t.insert k a).keys = t.keys := by
  have h' : k ∈ t.entries.map Prod.fst := h
  rw [insert, dif_pos h']
  simp only [keys, List.map_map]
  apply List.map_congr_left
  intro e _
  by_cases he : e.1 = k <;> simp [he]

theorem keys_insert_of_notMem {t : Table κ α} {k : κ} (a : α) (h : k ∉ t.keys) :
    (t.insert k a).keys = t.keys ++ [k] := by
  have h' : k ∉ t.entries.map Prod.fst := h
  rw [insert, dif_neg h']
  simp [keys]

theorem mem_keys_insert {t : Table κ α} {k k' : κ} {a : α} :
    k' ∈ (t.insert k a).keys ↔ k' = k ∨ k' ∈ t.keys := by
  by_cases h : k ∈ t.keys
  · rw [keys_insert_of_mem a h]
    constructor
    · exact Or.inr
    · rintro (rfl | hk)
      · exact h
      · exact hk
  · rw [keys_insert_of_notMem a h]
    simp [or_comm]

theorem keys_erase (t : Table κ α) (k : κ) : (t.erase k).keys = t.keys.filter (· ≠ k) := by
  simp only [erase, keys, List.filter_map]
  rfl

theorem mem_keys_erase {t : Table κ α} {k k' : κ} :
    k' ∈ (t.erase k).keys ↔ k' ∈ t.keys ∧ k' ≠ k := by
  simp [keys_erase]

end Table

end QueryLint
