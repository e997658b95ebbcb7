import Mathlib.Order.Nat
import QueryLint.Proofs.Pattern.Trials

/-!
# Greedy patterns

A search reports the end that is tried first, and in general the end tried first need not be the
last one possible.  `Greedy t p` is a condition under which it is.  It speaks about an arbitrary
rest, given by a function that says where the rest ends: if that function is *steady* (the rest does
not end earlier when it starts later), then so is the one for `p` and the rest together, and the
first trial of `p` that succeeds leads at least as far as every other.

* `greedy_of_isPlain`: every pattern without alternatives and optional parts is greedy;
* `Greedy.alt`: so are two alternatives that never overlap;
* `Greedy.opt_seq`: so is an optional part in front of something that never begins inside it;
* `Greedy.head?_trials`: the first trial of a greedy pattern is its longest match.
-/

namespace QueryLint

namespace Pattern

/-- Where a pattern together with a rest ends, when it is matched from an offset; `f` says where the
rest ends. -/
def firstEnd (t : List Char) (p : Pattern) (f : Nat → Option Nat) (i : Nat) : Option Nat :=
  (trials t p i).findSome? f

/-- Starting later never leads to an earlier end. -/
def Steady (t : List Char) (f : Nat → Option Nat) : Prop :=
  ∀ i j a b, i ≤ j → j ≤ t.length → f i = some a → f j = some b → a ≤ b

/-- In front of every steady rest the first successful trial leads furthest, and the whole is steady
again. -/
structure Greedy (t : List Char) (p : Pattern) : Prop where
  steady : ∀ f, Steady t f → Steady t (firstEnd t p f)
  longest : ∀ f, Steady t f → ∀ i j e, i ≤ t.length → Matches t p i j → f j = some e →
    ∃ e', firstEnd t p f i = some e' ∧ e ≤ e'

variable {t : List Char} {p q : Pattern} {f : Nat → Option Nat} {i j e : Nat}

/-! ### The first successful trial -/

lemma firstEnd_seq : firstEnd t (seq p q) f = firstEnd t p (firstEnd t q f) := by
  funext i
  exact findSome?_flatMap_of_forall fun _ _ => rfl

lemma firstEnd_alt : firstEnd t (alt p q) f i = (firstEnd t p f i).or (firstEnd t q f i) := by
  simp [firstEnd, trials]

lemma firstEnd_opt : firstEnd t (opt p) f i = (firstEnd t p f i).or (f i) := by
  simp [firstEnd, trials]

lemma exists_of_firstEnd (hi : i ≤ t.length) (h : firstEnd t p f i = some e) :
    ∃ j, Matches t p i j ∧ f j = some e := by
  obtain ⟨j, hj, hf⟩ := List.exists_of_findSome?_eq_some h
  exact ⟨j, (mem_trials hi).mp hj, hf⟩

lemma steady_some (t : List Char) : Steady t some := by
  intro i j a b hij _ ha hb
  cases ha
  cases hb
  exact hij

/-! ### Plain patterns -/

/-- The ends of the pattern are tried from right to left, and a match that lies inside another one
can be prolonged to the end of the other. -/
structure Stretching (t : List Char) (p : Pattern) : Prop where
  descending : ∀ i, (trials t p i).Pairwise (· > ·)
  prolong : ∀ i j i' j', Matches t p i j → Matches t p i' j' → i ≤ i' → j' < j → Matches t p i' j

theorem Stretching.greedy (h : Stretching t p) : Greedy t p := by
  have longest : ∀ f, Steady t f → ∀ i j e, i ≤ t.length → Matches t p i j → f j = some e →
      ∃ e', firstEnd t p f i = some e' ∧ e ≤ e' := by
    intro f hf i j e hi hm hj
    have hmem : j ∈ trials t p i := (mem_trials hi).mpr hm
    cases he : firstEnd t p f i with
    | none =>
      have hnone := List.findSome?_eq_none_iff.mp he j hmem
      rw [hj] at hnone
      cases hnone
    | some e' =>
      obtain ⟨before, k, after, hl, hk, hbefore⟩ := List.findSome?_eq_some_iff.mp he
      have hdesc := h.descending i
      rw [hl] at hmem hdesc
      refine ⟨e', rfl, ?_⟩
      rcases List.mem_append.mp hmem with hj' | hj'
      · rw [hbefore j hj'] at hj
        cases hj
      · rcases List.mem_cons.mp hj' with rfl | hj'
        · exact le_of_eq (Option.some.inj (hj.symm.trans hk))
        · -- what is tried later lies further left
          have hlt := (List.pairwise_cons.mp (List.pairwise_append.mp hdesc).2.1).1 j hj'
          have hkm : Matches t p i k := (mem_trials hi).mp (by simp [hl])
          exact hf j k e e' (le_of_lt hlt) hkm.le_length hj hk
  refine ⟨fun f hf i i' a a' hii' hi' ha ha' => ?_, longest⟩
  obtain ⟨j, hj, hfj⟩ := exists_of_firstEnd (hii'.trans hi') ha
  obtain ⟨j', hj', hfj'⟩ := exists_of_firstEnd hi' ha'
  by_cases hjj' : j ≤ j'
  · exact hf j j' a a' hjj' hj'.le_length hfj hfj'
  · -- the match from `i'` lies inside the one from `i`, so `j` was tried from `i'` as well
    have hp := h.prolong i j i' j' hj hj' hii' (not_le.mp hjj')
    obtain ⟨e', he', hle⟩ := longest f hf i' j a hi' hp hfj
    rw [ha'] at he'
    cases he'
    exact hle

lemma le_of_mem_runEnds {s : CharClass} {cs : List Char} (h : j ∈ runEnds s cs i) : i ≤ j := by
  induction cs generalizing i with
  | nil => simp_all [runEnds]
  | cons c cs ih =>
    rw [runEnds] at h
    split at h
    · rcases List.mem_append.mp h with h | h
      · have := ih h
        omega
      · simp_all
    · simp_all

lemma pairwise_runEnds (s : CharClass) (cs : List Char) (i : Nat) :
    (runEnds s cs i).Pairwise (· > ·) := by
  induction cs generalizing i with
  | nil => simp [runEnds]
  | cons c cs ih =>
    rw [runEnds]
    split
    · refine List.pairwise_append.mpr ⟨ih (i + 1), by simp, ?_⟩
      intro a ha b hb
      have := le_of_mem_runEnds ha
      simp only [List.mem_singleton] at hb
      omega
    · simp

lemma stretching_empty : Stretching t empty where
  descending i := by simp [trials]
  prolong i j i' j' h h' hi hj := by
    rw [matches_empty_iff] at h h'
    omega

lemma stretching_one (s : CharClass) : Stretching t (one s) where
  descending i := by
    rw [trials]
    split <;> simp
  prolong i j i' j' h h' hi hj := by
    rw [matches_one_iff] at h h'
    omega

lemma stretching_boundary : Stretching t boundary where
  descending i := by
    rw [trials]
    split <;> simp
  prolong i j i' j' h h' hi hj := by
    rw [matches_boundary_iff] at h h'
    omega

lemma stretching_many (s : CharClass) : Stretching t (many s) where
  descending i := pairwise_runEnds s _ i
  prolong i j i' j' h h' hi hj := by
    obtain ⟨-, hjt, hr⟩ := matches_many_iff.mp h
    have hle := h'.le
    exact matches_many_iff.mpr ⟨by omega, hjt, fun m h1 h2 => hr m (by omega) h2⟩

lemma stretching_many1 (s : CharClass) : Stretching t (many1 s) where
  descending i := by
    rw [trials]
    split
    · exact pairwise_runEnds s _ (i + 1)
    · simp
  prolong i j i' j' h h' hi hj := by
    obtain ⟨-, hr⟩ := matches_many1_iff.mp h
    obtain ⟨hc, hr'⟩ := matches_many1_iff.mp h'
    exact matches_many1_iff.mpr
      ⟨hc, (stretching_many s).prolong (i + 1) j (i' + 1) j' hr hr' (by omega) hj⟩

theorem Greedy.seq (hp : Greedy t p) (hq : Greedy t q) : Greedy t (seq p q) where
  steady f hf := by
    rw [firstEnd_seq]
    exact hp.steady _ (hq.steady f hf)
  longest f hf i k e hi h hk := by
    obtain ⟨j, hpj, hqk⟩ := matches_seq_iff.mp h
    obtain ⟨e₁, he₁, hle₁⟩ := hq.longest f hf j k e hpj.le_length hqk hk
    obtain ⟨e₂, he₂, hle₂⟩ := hp.longest _ (hq.steady f hf) i j e₁ hi hpj he₁
    exact ⟨e₂, by rw [firstEnd_seq, he₂], hle₁.trans hle₂⟩

/-- Whether the pattern has neither alternatives nor optional parts. -/
def isPlain : Pattern → Bool
  | empty | one _ | boundary | many _ | many1 _ => true
  | seq p q => p.isPlain && q.isPlain
  | alt _ _ | opt _ => false

/-- **Plain patterns are greedy**, whatever runs they are made of. -/
theorem greedy_of_isPlain (h : p.isPlain = true) : Greedy t p := by
  induction p with
  | empty => exact stretching_empty.greedy
  | one s => exact (stretching_one s).greedy
  | boundary => exact stretching_boundary.greedy
  | many s => exact (stretching_many s).greedy
  | many1 s => exact (stretching_many1 s).greedy
  | seq p q ihp ihq =>
    obtain ⟨hp, hq⟩ : p.isPlain = true ∧ q.isPlain = true := by simpa [isPlain] using h
    exact (ihp hp).seq (ihq hq)
  | alt p q => simp [isPlain] at h
  | opt p => simp [isPlain] at h

/-! ### Choices -/

/-- No match of `q` begins with a character that `p` reads, as far as the classes tell. -/
def isApart (p q : Pattern) : Bool :=
  p.classes.all fun s => q.firstClasses.all s.disjoint

/-- A match of `q` that begins behind the beginning of a match of `p` begins behind its end. -/
lemma le_of_isApart (h : isApart p q = true) (hq : q.consumes = true) {i' j' : Nat}
    (hpm : Matches t p i j) (hqm : Matches t q i' j') (hi : i ≤ i') : j ≤ i' := by
  by_contra hlt
  obtain ⟨s, hs, c, hc, hread⟩ := hpm.exists_class hi (not_le.mp hlt)
  obtain ⟨s', hs', c', hc', hstart⟩ := hqm.exists_firstClass (hqm.lt hq)
  obtain rfl : c = c' := Option.some.inj (hc.symm.trans hc')
  have hd := List.all_eq_true.mp (List.all_eq_true.mp h s hs) s' hs'
  rw [CharClass.not_contains_of_disjoint hd hread] at hstart
  cases hstart

lemma firstEnd_eq_none_of_isApart (h : isApart p q = true) (hp : p.consumes = true)
    (hq : q.consumes = true) (hi : i ≤ t.length) (hqm : Matches t q i j) :
    firstEnd t p f i = none := by
  refine List.findSome?_eq_none_iff.mpr fun j' hj' => ?_
  have hpm := (mem_trials hi).mp hj'
  exact absurd (le_of_isApart h hq hpm hqm le_rfl) (not_le.mpr (hpm.lt hp))

/-- With the same rest behind them, a match of `q` that begins later ends later. -/
lemma firstEnd_le_of_isApart (h : isApart p q = true) (hq : q.consumes = true) (hf : Steady t f)
    {i' a a' : Nat} (hii' : i ≤ i') (hi' : i' ≤ t.length) (ha : firstEnd t p f i = some a)
    (ha' : firstEnd t q f i' = some a') : a ≤ a' := by
  obtain ⟨j, hj, hfj⟩ := exists_of_firstEnd (hii'.trans hi') ha
  obtain ⟨j', hj', hfj'⟩ := exists_of_firstEnd hi' ha'
  have hle : j ≤ i' := le_of_isApart h hq hj hj' hii'
  exact hf j j' a a' (hle.trans hj'.le) hj'.le_length hfj hfj'

theorem Greedy.alt (hp : Greedy t p) (hq : Greedy t q) (hpc : p.consumes = true)
    (hqc : q.consumes = true) (hpq : isApart p q = true) (hqp : isApart q p = true) :
    Greedy t (alt p q) where
  steady f hf i i' a a' hii' hi' ha ha' := by
    rw [firstEnd_alt] at ha ha'
    rcases Option.or_eq_some_iff.mp ha with ha | ⟨-, ha⟩ <;>
      rcases Option.or_eq_some_iff.mp ha' with ha' | ⟨-, ha'⟩
    · exact hp.steady f hf i i' a a' hii' hi' ha ha'
    · exact firstEnd_le_of_isApart hpq hqc hf hii' hi' ha ha'
    · exact firstEnd_le_of_isApart hqp hpc hf hii' hi' ha ha'
    · exact hq.steady f hf i i' a a' hii' hi' ha ha'
  longest f hf i j e hi h hj := by
    rw [firstEnd_alt]
    rcases matches_alt_iff.mp h with h | h
    · obtain ⟨e', he', hle⟩ := hp.longest f hf i j e hi h hj
      exact ⟨e', by rw [he', Option.some_or], hle⟩
    · -- `p` cannot match here as well
      have hn : firstEnd t p f i = none := firstEnd_eq_none_of_isApart hpq hpc hqc hi h
      obtain ⟨e', he', hle⟩ := hq.longest f hf i j e hi h hj
      exact ⟨e', by rw [hn, he', Option.none_or], hle⟩

theorem Greedy.opt_seq (hp : Greedy t p) (hq : Greedy t q) (hpc : p.consumes = true)
    (hqc : q.consumes = true) (h : isApart p q = true) : Greedy t (.seq (opt p) q) where
  steady f hf i i' a a' hii' hi' ha ha' := by
    rw [firstEnd_seq, firstEnd_opt] at ha ha'
    have hi := hii'.trans hi'
    have hg := hq.steady f hf
    rcases Option.or_eq_some_iff.mp ha with ha | ⟨-, ha⟩ <;>
      rcases Option.or_eq_some_iff.mp ha' with ha' | ⟨-, ha'⟩
    · exact hp.steady _ hg i i' a a' hii' hi' ha ha'
    · -- the optional part is there at `i` only, and ends before the rest begins at `i'`
      obtain ⟨j, hj, hgj⟩ := exists_of_firstEnd hi ha
      obtain ⟨j', hj', -⟩ := exists_of_firstEnd hi' ha'
      exact hg j i' a a' (le_of_isApart h hqc hj hj' hii') hi' hgj ha'
    · obtain ⟨j', hj', hgj'⟩ := exists_of_firstEnd hi' ha'
      exact hg i j' a a' (hii'.trans hj'.le) hj'.le_length ha hgj'
    · exact hg i i' a a' hii' hi' ha ha'
  longest f hf i k e hi hm hk := by
    rw [firstEnd_seq, firstEnd_opt]
    have hg := hq.steady f hf
    obtain ⟨j, hpj, hqk⟩ := matches_seq_iff.mp hm
    obtain ⟨e₁, he₁, hle₁⟩ := hq.longest f hf j k e hpj.le_length hqk hk
    rcases matches_opt_iff.mp hpj with hpj | ⟨rfl, -⟩
    · obtain ⟨e₂, he₂, hle₂⟩ := hp.longest _ hg i j e₁ hi hpj he₁
      exact ⟨e₂, by rw [he₂, Option.some_or], hle₁.trans hle₂⟩
    · have hn : firstEnd t p (firstEnd t q f) j = none :=
        firstEnd_eq_none_of_isApart h hpc hqc hi hqk
      exact ⟨e₁, by rw [hn, he₁, Option.none_or], hle₁⟩

/-! ### The first trial is the longest match -/

/-- The pattern matches from `i` to `j`, and to no later offset. -/
def IsLongest (t : List Char) (p : Pattern) (i j : Nat) : Prop :=
  Matches t p i j ∧ ∀ j', Matches t p i j' → j' ≤ j

theorem Greedy.head?_trials (h : Greedy t p) (hi : i ≤ t.length)
    (hj : (trials t p i).head? = some j) : IsLongest t p i j := by
  have hfirst : firstEnd t p some i = some j := by
    rw [← hj, firstEnd]
    cases trials t p i <;> rfl
  refine ⟨(mem_trials hi).mp (List.mem_of_head? hj), fun j' hj' => ?_⟩
  obtain ⟨e, he, hle⟩ := h.longest some (steady_some t) i j' j' hi hj' rfl
  rw [hfirst] at he
  cases he
  exact hle

end Pattern

end QueryLint
