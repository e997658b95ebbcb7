import QueryLint.Proofs.Pattern.Occurrences

/-!
# Patterns that leave no choice

A pattern is *unambiguous* in a text if a match is known from its start.  Such a pattern can be
searched for in any manner:

* `Unambiguous.head?_trials_iff`, `Unambiguous.head?_lazyTrials_iff`: whether a search tries long runs
  first or short ones, the end that it reports is the only one there is, so also the last one
  (`Unambiguous.isLongest_iff`);
* `Unambiguous.leftmost_iff`: a whole scan reports the same stretches, whichever ends it takes.

Sequences are dealt with by `isUnambiguous`.  For alternatives it has to be known which of the two
is meant: `excludes` tells from the form of two patterns that they never match at the same offset
(`Matches.not_of_excludes`), which also sets apart rules that begin with the same words.
-/

namespace QueryLint

namespace Pattern

variable {t : List Char} {p q : Pattern} {i j j' o : Nat} {l : List Span}

/-! ### Patterns that exclude each other -/

/-- No character can begin both a match of `p` and a match of `q`, as far as the classes tell. -/
def startsOtherwise (p q : Pattern) : Bool :=
  p.consumes && q.consumes && p.firstClasses.all fun s => q.firstClasses.all s.disjoint

/-- Whether two patterns never match at the same offset, as far as their form tells: they begin with
different characters, or they are sequences whose first parts have to end at the same offset, where
their second parts exclude each other. -/
def excludes : Pattern → Pattern → Bool
  | seq a p, seq b q =>
    startsOtherwise (seq a p) (seq b q) ||
      p.consumes && q.consumes && isApart a q && isApart b p && p.excludes q
  | p, q => startsOtherwise p q

lemma not_matches_of_startsOtherwise (h : startsOtherwise p q = true) (hp : Matches t p i j) :
    ¬ Matches t q i j' := by
  intro hq
  simp only [startsOtherwise, Bool.and_eq_true] at h
  obtain ⟨⟨hpc, hqc⟩, hfirst⟩ := h
  obtain ⟨s, hs, c, hc, hread⟩ := hp.exists_firstClass (hp.lt hpc)
  obtain ⟨s', hs', c', hc', hread'⟩ := hq.exists_firstClass (hq.lt hqc)
  obtain rfl : c = c' := Option.some.inj (hc.symm.trans hc')
  have hd : s.disjoint s' = true := List.all_eq_true.mp (List.all_eq_true.mp hfirst s hs) s' hs'
  rw [CharClass.not_contains_of_disjoint hd hread] at hread'
  cases hread'

/-- **Exclusion.**  Where the one pattern matches, the other does not. -/
theorem Matches.not_of_excludes (h : p.excludes q = true) (hp : Matches t p i j) :
    ¬ Matches t q i j' := by
  -- along the two sequences, as long as their parts go the same way
  fun_induction excludes p q generalizing i j j' with
  | case2 p q => exact not_matches_of_startsOtherwise h hp
  | case1 a p b q ih =>
    rcases Bool.or_eq_true _ _ ▸ h with h | h
    · exact not_matches_of_startsOtherwise h hp
    · intro hq
      simp only [Bool.and_eq_true] at h
      obtain ⟨⟨⟨⟨hpc, hqc⟩, haq⟩, hbp⟩, hrest⟩ := h
      obtain ⟨m, ham, hpm⟩ := matches_seq_iff.mp hp
      obtain ⟨m', hbm, hqm⟩ := matches_seq_iff.mp hq
      have hle : m ≤ m' := le_of_isApart haq hqc ham hqm hbm.le
      have hge : m' ≤ m := le_of_isApart hbp hpc hbm hpm ham.le
      obtain rfl : m = m' := le_antisymm hle hge
      exact ih hrest hpm hqm

/-! ### One end for each start -/

/-- In this text a match of the pattern is known from its start. -/
def Unambiguous (t : List Char) (p : Pattern) : Prop :=
  ∀ i j j', Matches t p i j → Matches t p i j' → j = j'

lemma unambiguous_of_isUnambiguous (h : p.isUnambiguous = true) : Unambiguous t p := by
  intro i j j' hj hj'
  exact hj.end_unique h hj'

theorem Unambiguous.alt (hp : Unambiguous t p) (hq : Unambiguous t q)
    (h : p.excludes q = true) : Unambiguous t (alt p q) := by
  intro i j j' hj hj'
  rcases matches_alt_iff.mp hj with hj | hj <;> rcases matches_alt_iff.mp hj' with hj' | hj'
  · exact hp i j j' hj hj'
  · exact absurd hj' (hj.not_of_excludes h)
  · exact absurd hj (hj'.not_of_excludes h)
  · exact hq i j j' hj hj'

theorem Unambiguous.isLongest_iff (h : Unambiguous t p) :
    IsLongest t p i j ↔ Matches t p i j := by
  constructor
  · intro hlong
    exact hlong.1
  · intro hm
    exact ⟨hm, fun j' hm' => le_of_eq (h i j' j hm' hm)⟩

/-! ### Short runs first -/

/-- Where a match may end, if runs and optional parts are tried in the order opposite to that of
`trials`: the shorter run before the longer one, the absence of an optional part before the part. -/
def lazyTrials (t : List Char) : Pattern → Nat → List Nat
  | empty, i => [i]
  | one s, i => trials t (one s) i
  | boundary, i => trials t boundary i
  | many s, i => (trials t (many s) i).reverse
  | many1 s, i => (trials t (many1 s) i).reverse
  | seq p q, i => (lazyTrials t p i).flatMap (lazyTrials t q)
  | alt p q, i => lazyTrials t p i ++ lazyTrials t q i
  | opt p, i => i :: lazyTrials t p i

lemma mem_lazyTrials : j ∈ lazyTrials t p i ↔ j ∈ trials t p i := by
  induction p generalizing i j with
  | empty | one s | boundary => rfl
  | many s | many1 s => exact List.mem_reverse
  | seq p q ihp ihq => simp only [lazyTrials, trials, List.mem_flatMap, ihp, ihq]
  | alt p q ihp ihq => simp only [lazyTrials, trials, List.mem_append, ihp, ihq]
  | opt p ih =>
    simp only [lazyTrials, trials, List.mem_append, List.mem_cons, List.not_mem_nil, or_false, ih]
    exact or_comm

lemma head?_eq_some_iff_of_unique {ends : List Nat} (h : ∀ a ∈ ends, ∀ b ∈ ends, a = b) :
    ends.head? = some j ↔ j ∈ ends := by
  constructor
  · intro hj
    exact List.mem_of_head? hj
  · intro hj
    obtain ⟨a, rest, rfl⟩ := List.exists_cons_of_ne_nil (List.ne_nil_of_mem hj)
    rw [List.head?_cons, h a List.mem_cons_self j hj]

theorem Unambiguous.head?_trials_iff (h : Unambiguous t p) (hi : i ≤ t.length) :
    (trials t p i).head? = some j ↔ Matches t p i j := by
  rw [← mem_trials hi]
  apply head?_eq_some_iff_of_unique
  intro a ha b hb
  exact h i a b ((mem_trials hi).mp ha) ((mem_trials hi).mp hb)

/-- **No choice.**  The order in which ends are tried makes no difference. -/
theorem Unambiguous.head?_lazyTrials_iff (h : Unambiguous t p) (hi : i ≤ t.length) :
    (lazyTrials t p i).head? = some j ↔ Matches t p i j := by
  rw [← mem_trials hi, ← mem_lazyTrials]
  apply head?_eq_some_iff_of_unique
  intro a ha b hb
  rw [mem_lazyTrials, mem_trials hi] at ha hb
  exact h i a b ha hb

/-! ### Scans that take any match -/

/-- The stretches that a scan may report from an offset on if it is free to take any of the matches
at the leftmost offset where there is one. -/
inductive Leftmost (t : List Char) (p : Pattern) : Nat → List Span → Prop where
  /-- Nothing matches any more. -/
  | done {o : Nat} : (∀ i j, o ≤ i → ¬ Matches t p i j) → Leftmost t p o []
  /-- A leftmost match, and what follows its end. -/
  | next {o i j : Nat} {rest : List Span} : o ≤ i →
      (∀ i' j', o ≤ i' → i' < i → ¬ Matches t p i' j') → Matches t p i j →
      Leftmost t p j rest → Leftmost t p o (⟨i, j⟩ :: rest)

lemma LeftmostLongest.leftmost (h : LeftmostLongest t p o l) : Leftmost t p o l := by
  induction h with
  | done hnone => exact .done hnone
  | next ho hfirst hlong _ ih => exact .next ho hfirst hlong.1 ih

lemma Leftmost.leftmostLongest (hp : Unambiguous t p) (h : Leftmost t p o l) :
    LeftmostLongest t p o l := by
  induction h with
  | done hnone => exact .done hnone
  | next ho hfirst hm _ ih => exact .next ho hfirst (hp.isLongest_iff.mpr hm) ih

/-- **One scan.**  Whichever matches a scan takes, it reports what a search reports. -/
theorem Unambiguous.leftmost_iff (hp : Unambiguous t p) (hg : Greedy t p)
    (hc : p.consumes = true) : Leftmost t p 0 l ↔ p.spans t = l := by
  have hscan : LeftmostLongest t p 0 (p.spans t) := leftmostLongest_spans hg hc
  constructor
  · intro h
    exact hscan.unique (h.leftmostLongest hp)
  · rintro rfl
    exact hscan.leftmost

end Pattern

end QueryLint
