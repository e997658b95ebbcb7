import Mathlib.Data.List.Pairwise
import QueryLint.Proofs.Pattern.Scan

/-!
# Occurrences

A search skips what overlaps the match before.  `occurrences` lists all matches instead, one for
each offset where a match begins.  For a pattern that has only one end for each start
(`isUnambiguous`) that is every match there is (`mem_occurrences_iff`).  If the pattern is plain as
well, matches that begin later end later (`Matches.le_of_le`): of two nested matches the ends could
be exchanged (`Matches.exchange`), and then one start would have two ends.

So the first occurrence at or behind an offset is also the first to be over (`exists_firstFrom`),
and the one that begins last is the one that ends last (`last_eq_some`).
-/

namespace QueryLint

namespace Pattern

variable {t : List Char} {p q : Pattern} {i j i' j' o : Nat} {s : Span}

/-! ### Nested matches -/

/-- Two nested matches of a plain pattern can exchange their ends: the ways through the pattern
cross somewhere. -/
theorem Matches.exchange (hp : p.isPlain = true) (h : Matches t p i j) (h' : Matches t p i' j')
    (hi : i ≤ i') (hj : j' ≤ j) : Matches t p i j' ∧ Matches t p i' j := by
  induction p generalizing i j i' j' with
  | empty =>
    obtain ⟨rfl, -⟩ := matches_empty_iff.mp h
    obtain ⟨rfl, -⟩ := matches_empty_iff.mp h'
    obtain rfl : j = j' := by omega
    exact ⟨h, h⟩
  | one s =>
    obtain ⟨rfl, -⟩ := matches_one_iff.mp h
    obtain ⟨rfl, -⟩ := matches_one_iff.mp h'
    obtain rfl : i = i' := by omega
    exact ⟨h, h⟩
  | boundary =>
    obtain ⟨rfl, -⟩ := matches_boundary_iff.mp h
    obtain ⟨rfl, -⟩ := matches_boundary_iff.mp h'
    obtain rfl : j = j' := by omega
    exact ⟨h, h⟩
  | many s =>
    have hle := h'.le
    obtain ⟨-, hjt, hr⟩ := matches_many_iff.mp h
    constructor
    · exact matches_many_iff.mpr ⟨by omega, by omega, fun m h1 h2 => hr m h1 (by omega)⟩
    · exact matches_many_iff.mpr ⟨by omega, hjt, fun m h1 h2 => hr m (by omega) h2⟩
  | many1 s =>
    obtain ⟨hc, hrun⟩ := matches_many1_iff.mp h
    obtain ⟨hc', hrun'⟩ := matches_many1_iff.mp h'
    have hle := hrun'.le
    obtain ⟨-, hjt, hr⟩ := matches_many_iff.mp hrun
    constructor
    · refine matches_many1_iff.mpr
        ⟨hc, matches_many_iff.mpr ⟨by omega, by omega, fun m h1 h2 => ?_⟩⟩
      exact hr m h1 (by omega)
    · refine matches_many1_iff.mpr ⟨hc', matches_many_iff.mpr ⟨by omega, hjt, fun m h1 h2 => ?_⟩⟩
      exact hr m (by omega) h2
  | seq p q ihp ihq =>
    obtain ⟨hpp, hqp⟩ : p.isPlain = true ∧ q.isPlain = true := by simpa [isPlain] using hp
    obtain ⟨m, hpm, hqm⟩ := matches_seq_iff.mp h
    obtain ⟨m', hpm', hqm'⟩ := matches_seq_iff.mp h'
    by_cases hm : m ≤ m'
    · -- still nested between the two parts, so the ways cross in the second part
      obtain ⟨hleft, hright⟩ := ihq hqp hqm hqm' hm hj
      exact ⟨.seq hpm hleft, .seq hpm' hright⟩
    · obtain ⟨hleft, hright⟩ := ihp hpp hpm hpm' hi (by omega)
      exact ⟨.seq hleft hqm', .seq hright hqm⟩
  | alt p q => simp [isPlain] at hp
  | opt p => simp [isPlain] at hp

/-! ### One end for each start -/

/-- Whether a match has only one end, as far as the form of the pattern tells: a run has to be
followed by something that cannot begin inside it. -/
def isUnambiguous : Pattern → Bool
  | empty | one _ | boundary => true
  | seq p q => q.isUnambiguous && (p.isUnambiguous || q.consumes && isApart p q)
  | many _ | many1 _ | alt _ _ | opt _ => false

theorem Matches.end_unique (hp : p.isUnambiguous = true) (h : Matches t p i j)
    (h' : Matches t p i j') : j = j' := by
  induction p generalizing i j j' with
  | empty =>
    rw [matches_empty_iff] at h h'
    omega
  | one s =>
    rw [matches_one_iff] at h h'
    omega
  | boundary =>
    rw [matches_boundary_iff] at h h'
    omega
  | seq p q ihp ihq =>
    obtain ⟨hq, hside⟩ := Bool.and_eq_true _ _ ▸ hp
    obtain ⟨m, hpm, hqm⟩ := matches_seq_iff.mp h
    obtain ⟨m', hpm', hqm'⟩ := matches_seq_iff.mp h'
    have hm : m = m' := by
      rcases Bool.or_eq_true _ _ ▸ hside with hp | hapart
      · exact ihp hp hpm hpm'
      · obtain ⟨hc, hapart⟩ := Bool.and_eq_true _ _ ▸ hapart
        exact le_antisymm (le_of_isApart hapart hc hpm hqm' hpm'.le)
          (le_of_isApart hapart hc hpm' hqm hpm.le)
    subst hm
    exact ihq hq hqm hqm'
  | many s => cases hp
  | many1 s => cases hp
  | alt p q => cases hp
  | opt p => cases hp

/-- Whether the pattern is plain and has only one end for each start. -/
def isClear (p : Pattern) : Bool :=
  p.isPlain && p.isUnambiguous

/-- Matches of a clear pattern never lie inside each other. -/
theorem Matches.le_of_le (hp : p.isClear = true) (h : Matches t p i j) (h' : Matches t p i' j')
    (hi : i ≤ i') : j ≤ j' := by
  obtain ⟨hplain, hunambiguous⟩ := Bool.and_eq_true _ _ ▸ hp
  by_contra hlt
  obtain ⟨-, hm⟩ := h.exchange hplain h' hi (by omega)
  have := hm.end_unique hunambiguous h'
  omega

/-! ### All occurrences -/

/-- For each offset where a match begins the preferred one, left to right; they may overlap. -/
def occurrences (p : Pattern) (t : List Char) : List Span :=
  (p.endTable t).zipIdx.filterMap fun (stop, start) => stop.map (Span.mk start)

lemma mem_occurrences :
    s ∈ p.occurrences t ↔ s.start ≤ t.length ∧ (trials t p s.start).head? = some s.stop := by
  have hlen := length_endTable p t
  have hentry : s ∈ p.occurrences t ↔ (p.endTable t)[s.start]? = some (some s.stop) := by
    rw [occurrences, List.mem_filterMap]
    constructor
    · rintro ⟨⟨stop, start⟩, hmem, hs⟩
      obtain ⟨e, rfl, rfl⟩ := Option.map_eq_some_iff.mp hs
      exact List.mem_zipIdx_iff_getElem?.mp hmem
    · intro h
      exact ⟨(some s.stop, s.start), List.mem_zipIdx_iff_getElem?.mpr h, rfl⟩
  rw [hentry]
  constructor
  · intro h
    have hlt : s.start < (p.endTable t).length := (List.getElem?_eq_some_iff.mp h).1
    refine ⟨by omega, ?_⟩
    rw [← entry_endTable (by omega), entry, h, Option.join_some]
  · rintro ⟨hle, h⟩
    rw [← entry_endTable hle] at h
    exact Option.join_eq_some_iff.mp h

/-- Of an unambiguous pattern every match is listed. -/
theorem mem_occurrences_iff (hp : p.isUnambiguous = true) :
    s ∈ p.occurrences t ↔ Matches t p s.start s.stop := by
  rw [mem_occurrences]
  constructor
  · rintro ⟨hle, h⟩
    exact (mem_trials hle).mp (List.mem_of_head? h)
  · intro h
    have hle : s.start ≤ t.length := h.le.trans h.le_length
    obtain ⟨e, rest, hl⟩ := List.exists_cons_of_ne_nil (List.ne_nil_of_mem ((mem_trials hle).mpr h))
    have he : Matches t p s.start e := (mem_trials hle).mp (by rw [hl]; exact List.mem_cons_self)
    rw [hl, List.head?_cons, he.end_unique hp h]
    exact ⟨hle, rfl⟩

lemma pairwise_occurrences (p : Pattern) (t : List Char) :
    (p.occurrences t).Pairwise fun a b => a.start < b.start := by
  have hindex : (p.endTable t).zipIdx.Pairwise fun a b => a.2 < b.2 := by
    rw [← List.pairwise_map (f := Prod.snd), List.zipIdx_map_snd]
    exact List.pairwise_lt_range'
  rw [occurrences, List.pairwise_filterMap]
  refine hindex.imp fun hlt a ha b hb => ?_
  obtain ⟨_, _, rfl⟩ := Option.map_eq_some_iff.mp ha
  obtain ⟨_, _, rfl⟩ := Option.map_eq_some_iff.mp hb
  exact hlt

/-! ### The first and the last one -/

/-- The pattern occurs, first at this offset. -/
def FirstStart (t : List Char) (p : Pattern) (i : Nat) : Prop :=
  (∃ j, Matches t p i j) ∧ ∀ i' j', Matches t p i' j' → i ≤ i'

/-- The pattern occurs, and its last occurrence, the one behind which none begins and none ends,
ends at this offset. -/
def LastEnd (t : List Char) (p : Pattern) (l : Nat) : Prop :=
  ∃ k, Matches t p k l ∧ ∀ k' l', Matches t p k' l' → k' ≤ k ∧ l' ≤ l

/-- The first occurrence at or behind an offset. -/
def firstFrom (p : Pattern) (t : List Char) (offset : Nat) : Option Span :=
  (p.occurrences t).find? fun s => offset ≤ s.start

/-- The last occurrence. -/
def last (p : Pattern) (t : List Char) : Option Span :=
  (p.occurrences t).getLast?

lemma firstFrom_eq_some (hp : p.isClear = true) (h : p.firstFrom t o = some s) :
    o ≤ s.start ∧ Matches t p s.start s.stop ∧
      ∀ i j, o ≤ i → Matches t p i j → s.start ≤ i ∧ s.stop ≤ j := by
  obtain ⟨hplain, hunambiguous⟩ := Bool.and_eq_true _ _ ▸ hp
  have hmatch := (mem_occurrences_iff hunambiguous).mp (List.mem_of_find?_eq_some h)
  have ho : o ≤ s.start := by simpa using List.find?_some h
  refine ⟨ho, hmatch, fun i j hi hm => ?_⟩
  have hfirst : s.start ≤ i := by
    obtain ⟨-, before, behind, hl, hbefore⟩ := List.find?_eq_some_iff_append.mp h
    have hmem : (⟨i, j⟩ : Span) ∈ p.occurrences t := (mem_occurrences_iff hunambiguous).mpr hm
    have hsorted := pairwise_occurrences p t
    rw [hl] at hmem hsorted
    rcases List.mem_append.mp hmem with hmem | hmem
    · have hlt := hbefore _ hmem
      simp only [Bool.not_eq_true', decide_eq_false_iff_not] at hlt
      exact absurd hi hlt
    · rcases List.mem_cons.mp hmem with rfl | hmem
      · exact le_rfl
      · have hlt := (List.pairwise_cons.mp (List.pairwise_append.mp hsorted).2.1).1 _ hmem
        exact le_of_lt hlt
  exact ⟨hfirst, hmatch.le_of_le hp hm hfirst⟩

lemma firstStart_of_firstFrom (hp : p.isClear = true) (h : p.firstFrom t 0 = some s) :
    FirstStart t p s.start := by
  obtain ⟨-, hm, hfirst⟩ := firstFrom_eq_some hp h
  exact ⟨⟨_, hm⟩, fun i j hij => (hfirst i j (Nat.zero_le i) hij).1⟩

/-- Where there is a match at or behind an offset, there is a first one, and it is the first to be
over. -/
theorem exists_firstFrom (hp : p.isClear = true) (h : Matches t p i j) (hi : o ≤ i) :
    ∃ s, p.firstFrom t o = some s ∧ s.start ≤ i ∧ s.stop ≤ j := by
  obtain ⟨-, hunambiguous⟩ := Bool.and_eq_true _ _ ▸ hp
  have hmem : (⟨i, j⟩ : Span) ∈ p.occurrences t := (mem_occurrences_iff hunambiguous).mpr h
  cases hs : p.firstFrom t o with
  | none =>
    have hnone := List.find?_eq_none.mp hs _ hmem
    simp only [decide_eq_true_eq] at hnone
    exact absurd hi hnone
  | some s => exact ⟨s, rfl, (firstFrom_eq_some hp hs).2.2 i j hi h⟩

/-- The last occurrence neither begins nor ends before any other. -/
theorem last_eq_some (hp : p.isClear = true) (h : p.last t = some s) :
    Matches t p s.start s.stop ∧ ∀ i j, Matches t p i j → i ≤ s.start ∧ j ≤ s.stop := by
  obtain ⟨-, hunambiguous⟩ := Bool.and_eq_true _ _ ▸ hp
  have hmatch : Matches t p s.start s.stop :=
    (mem_occurrences_iff hunambiguous).mp (List.mem_of_getLast? h)
  refine ⟨hmatch, fun i j hm => ?_⟩
  have hlast : i ≤ s.start := by
    have hmem : (⟨i, j⟩ : Span) ∈ p.occurrences t := (mem_occurrences_iff hunambiguous).mpr hm
    have hsorted : (p.occurrences t).Pairwise fun a b => a.start ≤ b.start :=
      (pairwise_occurrences p t).imp le_of_lt
    have hle := hsorted.rel_getLast_of_rel_getLast_getLast hmem le_rfl
    rwa [List.getLast_of_mem_getLast? h] at hle
  exact ⟨hlast, hm.le_of_le hp hmatch hlast⟩

lemma lastEnd_of_last (hp : p.isClear = true) (h : p.last t = some s) : LastEnd t p s.stop :=
  ⟨s.start, last_eq_some hp h⟩

lemma exists_last (hp : p.isClear = true) (h : Matches t p i j) : ∃ s, p.last t = some s := by
  obtain ⟨-, hunambiguous⟩ := Bool.and_eq_true _ _ ▸ hp
  have hmem : (⟨i, j⟩ : Span) ∈ p.occurrences t := (mem_occurrences_iff hunambiguous).mpr h
  exact ⟨_, List.getLast?_eq_some_getLast (List.ne_nil_of_mem hmem)⟩

end Pattern

end QueryLint
