import Mathlib.Data.List.Basic
import QueryLint.Pattern.Search
import QueryLint.Proofs.Pattern.Matches

/-!
# Trials

`trials t p i` lists the offsets where a match of `p` that starts at `i` may end, in the order in
which a search with backtracking tries them: the longer run before the shorter one, the first
alternative before the second, the optional part before its absence.

* `mem_trials`: the trials are exactly the ends of the matches;
* `entry_ends`: the tables of `Pattern.Search` hold the first trial from which the rest succeeds, so
  reading them is the same as going back to the next trial after each failure;
* `entry_endTable`: for a whole pattern this is the very first trial.
-/

namespace QueryLint

namespace Pattern

/-- The ends of the runs at the beginning of a text that starts at the given offset, longest run
first. -/
def runEnds (s : CharClass) : List Char → Nat → List Nat
  | [], i => [i]
  | c :: rest, i => if s.contains c then runEnds s rest (i + 1) ++ [i] else [i]

/-- Where a match may end, in order of trial. -/
def trials (t : List Char) : Pattern → Nat → List Nat
  | empty, i => [i]
  | one s, i => if t[i]?.any s.contains then [i + 1] else []
  | boundary, i => if AtBoundary t i then [i] else []
  | many s, i => runEnds s (t.drop i) i
  | many1 s, i => if t[i]?.any s.contains then runEnds s (t.drop (i + 1)) (i + 1) else []
  | seq p q, i => (trials t p i).flatMap (trials t q)
  | alt p q, i => trials t p i ++ trials t q i
  | opt p, i => trials t p i ++ [i]

variable {t : List Char} {p q : Pattern} {s : CharClass} {i j : Nat}

/-! ### Trials are the ends of matches -/

theorem mem_runEnds (hi : i ≤ t.length) :
    j ∈ runEnds s (t.drop i) i ↔ Matches t (many s) i j := by
  induction hd : t.length - i generalizing i with
  | zero =>
    obtain rfl : i = t.length := by omega
    rw [List.drop_length, runEnds, List.mem_singleton]
    constructor
    · rintro rfl
      exact .manyNil hi
    · intro h
      have := h.bounds
      omega
  | succ d ih =>
    have hlt : i < t.length := by omega
    have hget : t[i]? = some t[i] := List.getElem?_eq_getElem hlt
    have ih' := ih (i := i + 1) hlt (by omega)
    rw [List.drop_eq_getElem_cons hlt, runEnds]
    split
    next hs =>
      rw [List.mem_append, List.mem_singleton, ih']
      constructor
      · rintro (h | rfl)
        · exact .manyCons hget hs h
        · exact .manyNil hi
      · intro h
        cases h with
        | manyNil => exact .inr rfl
        | manyCons _ _ h => exact .inl h
    next hs =>
      rw [List.mem_singleton]
      constructor
      · rintro rfl
        exact .manyNil hi
      · intro h
        cases h with
        | manyNil => rfl
        | manyCons hc hs' =>
          rw [hget, Option.some.injEq] at hc
          exact absurd (hc ▸ hs') hs

/-- **Trials and matches.**  A match can end exactly where it is tried to end. -/
theorem mem_trials (hi : i ≤ t.length) : j ∈ trials t p i ↔ Matches t p i j := by
  induction p generalizing i j with
  | empty => simp [trials, matches_empty_iff, hi]
  | one s =>
    rw [trials, matches_one_iff, readAt_iff_any]
    split <;> simp_all
  | boundary =>
    rw [trials, matches_boundary_iff]
    split <;> simp_all
  | many s => exact mem_runEnds hi
  | many1 s =>
    rw [trials, matches_many1_iff, readAt_iff_any]
    split
    next h => rw [mem_runEnds (readAt_iff_any.mpr h).lt_length, and_iff_right h]
    next h => simp [h]
  | seq p q ihp ihq =>
    rw [trials, matches_seq_iff, List.mem_flatMap]
    constructor
    · rintro ⟨m, hp, hq⟩
      have hm := (ihp hi).mp hp
      exact ⟨m, hm, (ihq hm.le_length).mp hq⟩
    · rintro ⟨m, hp, hq⟩
      exact ⟨m, (ihp hi).mpr hp, (ihq hp.le_length).mpr hq⟩
  | alt p q ihp ihq => rw [trials, matches_alt_iff, List.mem_append, ihp hi, ihq hi]
  | opt p ih =>
    rw [trials, matches_opt_iff, List.mem_append, List.mem_singleton, ih hi, and_iff_left hi]

/-! ### Reading a table -/

/-- The entry of a table at an offset; none outside the table. -/
def entry (k : EndTable) (i : Nat) : Option Nat :=
  k[i]?.join

@[simp]
lemma entry_cons_zero (r : Option Nat) (k : EndTable) : entry (r :: k) 0 = r := rfl

@[simp]
lemma entry_cons_succ (r : Option Nat) (k : EndTable) : entry (r :: k) (i + 1) = entry k i := rfl

lemma entry_of_length_le {k : EndTable} (h : k.length ≤ i) : entry k i = none := by
  simp [entry, List.getElem?_eq_none h]

lemma headD_eq_entry (k : EndTable) : k.headD none = entry k 0 := by
  cases k <;> rfl

lemma entry_doneTable (hi : i ≤ t.length) : entry (doneTable t) i = some i := by
  have h : i < t.length + 1 := by omega
  simp [entry, doneTable, h]

lemma entry_oneTable {k : EndTable} (hk : k.length = t.length + 1) :
    entry (oneTable s t k) i = if t[i]?.any s.contains then entry k (i + 1) else none := by
  obtain ⟨r, k, rfl⟩ := List.exists_cons_of_length_eq_add_one hk
  have hk' : k.length = t.length := by simpa using hk
  rw [oneTable, List.tail_cons, entry_cons_succ]
  by_cases hi : i < t.length
  · have hik : i < k.length := by omega
    unfold entry
    rw [List.getElem?_append_left (by simp; omega), List.getElem?_zipWith,
      List.getElem?_eq_getElem hi, List.getElem?_eq_getElem hik]
    simp
  · rw [List.getElem?_eq_none (by omega : t.length ≤ i)]
    by_cases he : i = t.length
    · simp [entry, he, hk']
    · exact entry_of_length_le (by simp [hk']; omega)

lemma getElem?_boundaries (hi : i ≤ t.length) :
    (boundaries t)[i]? = some (decide (AtBoundary t i)) := by
  have hright : (t.map isWord ++ [false])[i]? = some (wordAt t i) := by
    by_cases h : i < t.length
    · simp [List.getElem?_append_left, h, wordAt]
    · obtain rfl : i = t.length := by omega
      simp [wordAt]
  have hleft : (false :: t.map isWord)[i]? = some (decide (0 < i) && wordAt t (i - 1)) := by
    cases i with
    | zero => simp
    | succ i =>
      have h : i < t.length := by omega
      simp [wordAt, h]
  rw [boundaries, List.getElem?_zipWith, hleft, hright]
  by_cases h0 : 0 < i <;> cases hl : wordAt t (i - 1) <;> cases hr : wordAt t i <;>
    simp [AtBoundary, h0, hl, hr]

lemma entry_boundaryTable {k : EndTable} (hi : i ≤ t.length) :
    entry (boundaryTable t k) i = if AtBoundary t i then entry k i else none := by
  unfold entry boundaryTable
  rw [List.getElem?_zipWith, getElem?_boundaries hi]
  cases k[i]? <;> simp

lemma entry_preferTable {a b : EndTable} (h : a.length = b.length) :
    entry (preferTable a b) i = (entry a i).or (entry b i) := by
  by_cases hi : i < a.length
  · have hb : i < b.length := by omega
    unfold entry preferTable
    rw [List.getElem?_zipWith, List.getElem?_eq_getElem hi, List.getElem?_eq_getElem hb]
    simp
  · rw [entry_of_length_le (k := a) (by omega), entry_of_length_le (k := b) (by omega)]
    exact entry_of_length_le (by simp [preferTable]; omega)

lemma runEnds_succ (s : CharClass) (cs : List Char) (i : Nat) :
    runEnds s cs (i + 1) = (runEnds s cs i).map (· + 1) := by
  induction cs generalizing i with
  | nil => rfl
  | cons c cs ih =>
    rw [runEnds, runEnds, ih]
    split <;> simp

/-- A table of runs, filled from the right, holds the longest run from which the rest succeeds. -/
theorem entry_manyTable {k : EndTable} (hk : k.length = t.length + 1) :
    entry (manyTable s t k) i = (runEnds s (t.drop i) i).findSome? (entry k) := by
  induction t generalizing i k with
  | nil =>
    obtain ⟨r, rfl⟩ := List.length_eq_one_iff.mp hk
    cases i with
    | zero => cases r <;> rfl
    | succ i => rfl
  | cons c cs ih =>
    obtain ⟨r, k, rfl⟩ := List.exists_cons_of_length_eq_add_one hk
    have hk' : k.length = cs.length + 1 := by simpa using hk
    -- the runs of the rest of the text, one offset further
    have later : ∀ m, entry (manyTable s cs k) m
        = (runEnds s (cs.drop m) (m + 1)).findSome? (entry (r :: k)) := by
      intro m
      rw [ih hk', runEnds_succ, List.findSome?_map]
      rfl
    have hcons : manyTable s (c :: cs) (r :: k)
        = (if s.contains c then ((manyTable s cs k).headD none) <|> r else r)
          :: manyTable s cs k := rfl
    rw [hcons]
    cases i with
    | zero =>
      rw [entry_cons_zero, headD_eq_entry, later 0, List.drop_zero, List.drop_zero, runEnds]
      split <;> simp
    | succ i => rw [entry_cons_succ, later i, List.drop_succ_cons]

/-! ### Tables hold the first successful trial -/

lemma findSome?_flatMap_of_forall {α β γ : Type} {l : List α} {f : α → List β} {g : β → Option γ}
    {h : α → Option γ} (hf : ∀ a ∈ l, (f a).findSome? g = h a) :
    (l.flatMap f).findSome? g = l.findSome? h := by
  induction l with
  | nil => rfl
  | cons a l ih =>
    rw [List.flatMap_cons, List.findSome?_append, hf a List.mem_cons_self,
      ih fun b hb => hf b (List.mem_cons_of_mem a hb), List.findSome?_cons]
    cases h a <;> rfl

/-- **Backtracking.**  The table of a pattern in front of a table for the rest: at each offset the
first trial from which the rest succeeds. -/
theorem entry_ends {k : EndTable} (hk : k.length = t.length + 1) (hi : i ≤ t.length) :
    entry (ends t p k) i = (trials t p i).findSome? (entry k) := by
  induction p generalizing i k with
  | empty =>
    rw [ends, trials]
    cases h : entry k i <;> simp [h]
  | one s =>
    rw [ends, trials, entry_oneTable hk]
    split
    · cases h : entry k (i + 1) <;> simp [h]
    · rfl
  | boundary =>
    rw [ends, trials, entry_boundaryTable hi]
    split
    · cases h : entry k i <;> simp [h]
    · rfl
  | many s => exact entry_manyTable hk
  | many1 s =>
    rw [ends, trials, entry_oneTable (length_manyTable hk), entry_manyTable hk]
    split <;> rfl
  | seq p q ihp ihq =>
    rw [ends, trials, ihp (length_ends q hk) hi]
    symm
    apply findSome?_flatMap_of_forall
    intro j hj
    exact (ihq hk ((mem_trials hi).mp hj).le_length).symm
  | alt p q ihp ihq =>
    rw [ends, trials, entry_preferTable (by rw [length_ends p hk, length_ends q hk]), ihp hk hi,
      ihq hk hi, List.findSome?_append]
  | opt p ih =>
    rw [ends, trials, entry_preferTable (by rw [length_ends p hk, hk]), ih hk hi,
      List.findSome?_append]
    cases h : entry k i <;> simp [h]

/-- A whole pattern ends where it is first tried to end. -/
theorem entry_endTable (hi : i ≤ t.length) : entry (p.endTable t) i = (trials t p i).head? := by
  rw [endTable, entry_ends (length_doneTable t) hi]
  cases h : trials t p i with
  | nil => rfl
  | cons j rest =>
    have hj : j ≤ t.length := ((mem_trials hi).mp (h ▸ List.mem_cons_self)).le_length
    simp [entry_doneTable hj]

end Pattern

end QueryLint
