import QueryLint.Proofs.Pattern.Greedy

/-!
# Leftmost-longest scans

`LeftmostLongest t p o l` says, without any order of trial, which stretches a scan of `t` from the
offset `o` has to report: the leftmost match, prolonged as far as the pattern allows, then the same
again from its end, until nothing matches any more.

* `LeftmostLongest.unique`: there is only one such list;
* `leftmostLongest_spans`: for a greedy pattern without empty matches, `Pattern.spans` is that list;
* `matches_of_mem_spans`, `occursIn_iff`, `spans_eq_nil_iff`: whatever the pattern, a search reports
  matches only, and it reports something if there is a match at all.
-/

namespace QueryLint

namespace Pattern

/-- The stretches that a leftmost-longest scan reports from an offset on. -/
inductive LeftmostLongest (t : List Char) (p : Pattern) : Nat → List Span → Prop where
  /-- Nothing matches any more. -/
  | done {o : Nat} : (∀ i j, o ≤ i → ¬ Matches t p i j) → LeftmostLongest t p o []
  /-- The leftmost match, as long as possible, and what follows its end. -/
  | next {o i j : Nat} {rest : List Span} : o ≤ i →
      (∀ i' j', o ≤ i' → i' < i → ¬ Matches t p i' j') → IsLongest t p i j →
      LeftmostLongest t p j rest → LeftmostLongest t p o (⟨i, j⟩ :: rest)

variable {t : List Char} {p : Pattern} {o : Nat}

lemma IsLongest.unique {i j j' : Nat} (h : IsLongest t p i j) (h' : IsLongest t p i j') : j = j' :=
  le_antisymm (h'.2 j h.1) (h.2 j' h'.1)

theorem LeftmostLongest.unique {l l' : List Span} (h : LeftmostLongest t p o l)
    (h' : LeftmostLongest t p o l') : l = l' := by
  induction h generalizing l' with
  | done hnone =>
    cases h' with
    | done => rfl
    | next hi _ hlong _ => exact absurd hlong.1 (hnone _ _ hi)
  | @next o i j rest hi hfirst hlong _ ih =>
    cases h' with
    | done hnone => exact absurd hlong.1 (hnone _ _ hi)
    | @next _ i' j' rest' hi' hfirst' hlong' hrest' =>
      obtain rfl : i = i' := by
        rcases lt_trichotomy i i' with hlt | heq | hgt
        · exact absurd hlong.1 (hfirst' i j hi hlt)
        · exact heq
        · exact absurd hlong'.1 (hfirst i' j' hi' hgt)
      obtain rfl : j = j' := hlong.unique hlong'
      rw [ih hrest']

/-- A scan may as well start further left, where nothing matches. -/
lemma LeftmostLongest.start_earlier {o' : Nat} {l : List Span} (h : LeftmostLongest t p o l)
    (ho : o' ≤ o) (hnone : ∀ i j, o' ≤ i → i < o → ¬ Matches t p i j) :
    LeftmostLongest t p o' l := by
  cases h with
  | done hrest =>
    refine .done fun i j hi => ?_
    by_cases hio : i < o
    · exact hnone i j hi hio
    · exact hrest i j (not_lt.mp hio)
  | next hi hfirst hlong hrest =>
    refine .next (ho.trans hi) (fun i' j' hi' hlt => ?_) hlong hrest
    by_cases hio : i' < o
    · exact hnone i' j' hi' hio
    · exact hfirst i' j' (not_lt.mp hio) hlt

/-! ### Collecting the entries of a table -/

/-- What is collected from the part of the table of a greedy pattern that begins at `o` is what a
scan reports from there, or from the end of the last report if that is further right. -/
theorem leftmostLongest_collect (hg : Greedy t p) (hc : p.consumes = true) {k : EndTable}
    {free : Nat} (hlen : o + k.length = t.length + 1)
    (hk : ∀ m < k.length, entry k m = (trials t p (o + m)).head?) :
    LeftmostLongest t p (max o free) (collect o free k) := by
  induction k generalizing o free with
  | nil =>
    refine .done fun i j hi h => ?_
    have := h.bounds
    simp only [List.length_nil] at hlen
    omega
  | cons r k ih =>
    simp only [List.length_cons] at hlen
    have ho : o ≤ t.length := by omega
    have hr : r = (trials t p o).head? := hk 0 (by simp)
    have ih' : ∀ free, LeftmostLongest t p (max (o + 1) free) (collect (o + 1) free k) := by
      intro free
      refine ih (by omega) fun m hm => ?_
      have := hk (m + 1) (by simpa using hm)
      rw [entry_cons_succ] at this
      rw [this, Nat.add_right_comm, Nat.add_assoc]
    cases r with
    | none =>
      have hnone : ∀ j, ¬ Matches t p o j := by
        intro j h
        have hmem := (mem_trials ho).mpr h
        rw [List.head?_eq_none_iff.mp hr.symm] at hmem
        cases hmem
      rw [collect]
      refine (ih' free).start_earlier (by omega) fun i j hi hlt h => ?_
      have : i ≠ o := fun he => hnone j (he ▸ h)
      omega
    | some j =>
      have hlong : IsLongest t p o j := hg.head?_trials ho hr.symm
      have hoj : o < j := hlong.1.lt hc
      rw [collect]
      split
      next hlt =>
        -- the match overlaps the last report
        rw [max_eq_right (le_of_lt hlt)]
        have := ih' free
        rwa [max_eq_right (Nat.succ_le_of_lt hlt)] at this
      next hge =>
        rw [max_eq_left (not_lt.mp hge)]
        have := ih' j
        rw [max_eq_right (Nat.succ_le_of_lt hoj)] at this
        exact .next le_rfl (fun i' j' hi' hlt => absurd hlt (not_lt.mpr hi')) hlong this

/-- **Searching is scanning.**  For a greedy pattern whose matches are not empty the reported
stretches are those of the leftmost-longest scan. -/
theorem leftmostLongest_spans (hg : Greedy t p) (hc : p.consumes = true) :
    LeftmostLongest t p 0 (p.spans t) := by
  have hlen := length_endTable p t
  have h : LeftmostLongest t p (max 0 0) (collect 0 0 (p.endTable t)) :=
    leftmostLongest_collect hg hc (by omega) fun m hm => by
      rw [entry_endTable (by omega), Nat.zero_add]
  rwa [max_self] at h

/-! ### Every report is a match -/

lemma mem_collect {k : EndTable} {free : Nat} {s : Span} (h : s ∈ collect o free k) :
    ∃ m, s.start = o + m ∧ entry k m = some s.stop := by
  induction k generalizing o free with
  | nil => simp [collect] at h
  | cons r k ih =>
    -- an entry further right is one offset further from `o` than from `o + 1`
    have later : ∀ {free}, s ∈ collect (o + 1) free k →
        ∃ m, s.start = o + m ∧ entry (r :: k) m = some s.stop := by
      intro free h
      obtain ⟨m, hm, he⟩ := ih h
      exact ⟨m + 1, by omega, he⟩
    cases r with
    | none => exact later h
    | some j =>
      rw [collect] at h
      split at h
      · exact later h
      · rcases List.mem_cons.mp h with rfl | h
        · exact ⟨0, rfl, rfl⟩
        · exact later h

theorem matches_of_mem_spans {s : Span} (h : s ∈ p.spans t) : Matches t p s.start s.stop := by
  obtain ⟨m, hm, he⟩ := mem_collect h
  rw [Nat.zero_add] at hm
  have hlt : m < t.length + 1 := by
    by_contra hge
    rw [entry_of_length_le (by rw [length_endTable]; omega)] at he
    cases he
  rw [entry_endTable (by omega)] at he
  rw [hm]
  exact (mem_trials (by omega)).mp (List.mem_of_head? he)

/-! ### Finding anything at all -/

lemma collect_eq_nil_iff {k : EndTable} {free : Nat} (h : free ≤ o) :
    collect o free k = [] ↔ k.any Option.isSome = false := by
  induction k generalizing o with
  | nil => simp [collect]
  | cons r k ih =>
    cases r with
    | none => simp [collect, ih (Nat.le_succ_of_le h)]
    | some j => simp [collect, not_lt.mpr h]

/-- Both ways of searching agree on whether there is anything to report. -/
theorem spans_eq_nil_iff_occursIn : p.spans t = [] ↔ p.occursIn t = false :=
  collect_eq_nil_iff le_rfl

theorem occursIn_iff : p.occursIn t = true ↔ ∃ i j, Matches t p i j := by
  have hlen := length_endTable p t
  rw [occursIn, List.any_eq_true]
  constructor
  · rintro ⟨r, hr, hsome⟩
    obtain ⟨i, hi, hget⟩ := List.mem_iff_getElem.mp hr
    have hit : i ≤ t.length := by omega
    have he : (trials t p i).head? = r := by
      rw [← entry_endTable hit, entry, List.getElem?_eq_getElem hi, hget]
      rfl
    obtain ⟨j, hj⟩ := Option.isSome_iff_exists.mp hsome
    exact ⟨i, j, (mem_trials hit).mp (List.mem_of_head? (he.trans hj))⟩
  · rintro ⟨i, j, h⟩
    have hit : i ≤ t.length := h.le.trans h.le_length
    obtain ⟨a, rest, hl⟩ := List.exists_cons_of_ne_nil
      (List.ne_nil_of_mem ((mem_trials hit).mpr h))
    have he : entry (p.endTable t) i = some a := by rw [entry_endTable hit, hl, List.head?_cons]
    exact ⟨some a, List.mem_of_getElem? (Option.join_eq_some_iff.mp he), rfl⟩

theorem spans_eq_nil_iff : p.spans t = [] ↔ ∀ i j, ¬ Matches t p i j := by
  rw [spans_eq_nil_iff_occursIn, Bool.eq_false_iff, Ne, occursIn_iff]
  push Not
  rfl

end Pattern

end QueryLint
