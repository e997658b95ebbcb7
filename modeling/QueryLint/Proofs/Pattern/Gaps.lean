import QueryLint.Proofs.Pattern.Occurrences
import QueryLint.Proofs.Pattern.Variants

/-!
# Parts with gaps between them

A `Gapped` pattern is an opener, some middle parts and a closer, with any text at all between them.
Searching for it goes back and forth over the gaps, but what it reports is decided by few
occurrences: the stretch from the first opener to the end of the last closer, if between them the
middle parts can be passed, and nothing else (`Gapped.spans_eq`).  `Gapped.firstToLast?` finds that
stretch in one pass over the occurrences of each part: the first opener, for each middle part the
first one behind the part before, and the last closer.

That taking the first one of each part is enough rests on the parts being clear: what begins first
is over first.
-/

namespace QueryLint

namespace Pattern

variable {t : List Char} {p q : Pattern} {ps v w : List Pattern} {s : CharClass}
  {i j k l m o : Nat} {a : Span}

lemma matches_anything_iff : Matches t (many .any) i j ↔ i ≤ j ∧ j ≤ t.length := by
  rw [matches_many_iff]
  constructor
  · rintro ⟨hij, hj, -⟩
    exact ⟨hij, hj⟩
  · rintro ⟨hij, hj⟩
    refine ⟨hij, hj, fun m _ hm => ?_⟩
    have hlt : m < t.length := by omega
    exact ⟨t[m], List.getElem?_eq_getElem hlt, rfl⟩

/-! ### Passing parts -/

/-- From one offset on, the parts follow each other up to another offset, none overlapping the one
before. -/
def Passes (t : List Char) : List Pattern → Nat → Nat → Prop
  | [], i, k => i ≤ k
  | p :: ps, i, k => ∃ m n, i ≤ m ∧ Matches t p m n ∧ Passes t ps n k

lemma Passes.start_earlier (h : Passes t ps i k) (hi : o ≤ i) : Passes t ps o k := by
  cases ps with
  | nil =>
    have : i ≤ k := h
    show o ≤ k
    omega
  | cons p ps =>
    obtain ⟨m, n, him, hm, hrest⟩ := h
    exact ⟨m, n, by omega, hm, hrest⟩

/-- Where the parts are passed at the earliest: each of them is taken at its first occurrence. -/
def passedAt? (t : List Char) : List Pattern → Nat → Option Nat
  | [], i => some i
  | p :: ps, i => (p.firstFrom t i).bind fun first => passedAt? t ps first.stop

/-- Taking each part as early as possible is as good as any other choice. -/
theorem passes_iff (hps : ∀ p ∈ ps, p.isClear = true) :
    Passes t ps i k ↔ ∃ e, passedAt? t ps i = some e ∧ e ≤ k := by
  induction ps generalizing i with
  | nil => simp [Passes, passedAt?]
  | cons p ps ih =>
    have hp : p.isClear = true := hps p List.mem_cons_self
    have ih' := fun i => ih (i := i) fun q hq => hps q (List.mem_cons_of_mem p hq)
    constructor
    · rintro ⟨m, n, him, hm, hrest⟩
      obtain ⟨first, hfirst, -, hstop⟩ := exists_firstFrom hp hm him
      obtain ⟨e, he, hle⟩ := (ih' _).mp (hrest.start_earlier hstop)
      exact ⟨e, by rw [passedAt?, hfirst, Option.bind_some, he], hle⟩
    · rintro ⟨e, he, hle⟩
      obtain ⟨first, hfirst, he⟩ := Option.bind_eq_some_iff.mp he
      obtain ⟨hi, hm, -⟩ := firstFrom_eq_some hp hfirst
      exact ⟨_, _, hi, hm, (ih' _).mpr ⟨e, he, hle⟩⟩

/-! ### Gapped patterns -/

/-- The first part, the parts in between and the last part of a pattern with gaps. -/
structure Gapped where
  opener : Pattern
  middle : List Pattern
  closer : Pattern
  isClear_parts : (opener :: closer :: middle).all isClear = true := by decide +kernel

namespace Gapped

variable (g : Gapped)

/-- The parts with any text between two of them. -/
def pattern : Pattern :=
  concat (g.opener :: (g.middle.flatMap fun p => [many .any, p]) ++ [many .any, g.closer])

/-- An opener that begins at the first offset, a closer that ends at the second, and between them
room for the middle parts. -/
def Covers (t : List Char) (i l : Nat) : Prop :=
  ∃ j k, Matches t g.opener i j ∧ Passes t g.middle j k ∧ Matches t g.closer k l

/-- The stretch from the first opener to the last closer, if the middle parts fit in between. -/
def firstToLast? (t : List Char) : Option Span := do
  let first ← g.opener.firstFrom t 0
  let passed ← passedAt? t g.middle first.stop
  let last ← g.closer.last t
  if passed ≤ last.start then some ⟨first.start, last.stop⟩ else none

lemma isClear_opener : g.opener.isClear = true :=
  List.all_eq_true.mp g.isClear_parts _ List.mem_cons_self

lemma isClear_closer : g.closer.isClear = true :=
  List.all_eq_true.mp g.isClear_parts _ (List.mem_cons_of_mem _ List.mem_cons_self)

lemma isClear_middle : ∀ p ∈ g.middle, p.isClear = true := fun p hp =>
  List.all_eq_true.mp g.isClear_parts p (List.mem_cons_of_mem _ (List.mem_cons_of_mem _ hp))

lemma matches_gaps_iff :
    Matches t (concat ((ps.flatMap fun p => [many .any, p]) ++ [many .any, q])) j l
      ↔ ∃ k, Passes t ps j k ∧ Matches t q k l := by
  induction ps generalizing j with
  | nil =>
    rw [List.flatMap_nil, List.nil_append, matches_concat_cons_iff]
    simp only [matches_concat_singleton_iff, matches_anything_iff]
    constructor
    · rintro ⟨k, ⟨hjk, -⟩, hq⟩
      exact ⟨k, hjk, hq⟩
    · rintro ⟨k, hjk, hq⟩
      exact ⟨k, ⟨hjk, hq.le.trans hq.le_length⟩, hq⟩
  | cons p ps ih =>
    have hcons : ((p :: ps).flatMap fun p => [many .any, p]) ++ [many .any, q]
        = many .any :: p :: ((ps.flatMap fun p => [many .any, p]) ++ [many .any, q]) := rfl
    rw [hcons, matches_concat_cons_iff]
    simp only [matches_concat_cons_iff, matches_anything_iff, ih]
    constructor
    · rintro ⟨m, ⟨hjm, -⟩, n, hp, k, hpasses, hq⟩
      exact ⟨k, ⟨m, n, hjm, hp, hpasses⟩, hq⟩
    · rintro ⟨k, ⟨m, n, hjm, hp, hpasses⟩, hq⟩
      exact ⟨m, ⟨hjm, hp.le.trans hp.le_length⟩, n, hp, k, hpasses, hq⟩

theorem matches_pattern_iff : Matches t g.pattern i l ↔ g.Covers t i l := by
  rw [pattern, List.cons_append, matches_concat_cons_iff]
  simp only [matches_gaps_iff]
  constructor
  · rintro ⟨j, hopener, k, hpasses, hcloser⟩
    exact ⟨j, k, hopener, hpasses, hcloser⟩
  · rintro ⟨j, k, hopener, hpasses, hcloser⟩
    exact ⟨j, hopener, k, hpasses, hcloser⟩

/-! ### From the first opener to the last closer -/

variable {g}

lemma exists_firstToLast (h : g.Covers t i l) : ∃ a, g.firstToLast? t = some a := by
  obtain ⟨j, k, hopener, hpasses, hcloser⟩ := h
  obtain ⟨first, hfirst, -, hstop⟩ := exists_firstFrom g.isClear_opener hopener (Nat.zero_le i)
  obtain ⟨passed, hpassed, hle⟩ :=
    (passes_iff g.isClear_middle).mp (hpasses.start_earlier hstop)
  obtain ⟨last, hlast⟩ := exists_last g.isClear_closer hcloser
  have hk : k ≤ last.start := ((last_eq_some g.isClear_closer hlast).2 k l hcloser).1
  have hroom : passed ≤ last.start := by omega
  exact ⟨⟨first.start, last.stop⟩, by simp [firstToLast?, hfirst, hpassed, hlast, hroom]⟩

/-- The stretch that was found begins where the first opener does and ends where the last closer
does, and the middle parts fit in between. -/
theorem firstToLast_eq_some (h : g.firstToLast? t = some a) :
    FirstStart t g.opener a.start ∧ LastEnd t g.closer a.stop ∧ g.Covers t a.start a.stop := by
  simp only [firstToLast?, Option.bind_eq_bind, Option.bind_eq_some_iff] at h
  obtain ⟨first, hfirst, passed, hpassed, last, hlast, ha⟩ := h
  split at ha
  next hroom =>
    obtain rfl := Option.some.inj ha
    have hstart : FirstStart t g.opener first.start :=
      firstStart_of_firstFrom g.isClear_opener hfirst
    have hend : LastEnd t g.closer last.stop := lastEnd_of_last g.isClear_closer hlast
    have hopener : Matches t g.opener first.start first.stop :=
      (firstFrom_eq_some g.isClear_opener hfirst).2.1
    have hpasses : Passes t g.middle first.stop last.start :=
      (passes_iff g.isClear_middle).mpr ⟨passed, hpassed, hroom⟩
    have hcloser : Matches t g.closer last.start last.stop :=
      (last_eq_some g.isClear_closer hlast).1
    exact ⟨hstart, hend, first.stop, last.start, hopener, hpasses, hcloser⟩
  next => cases ha

/-- No stretch begins before the first opener or ends behind the last closer. -/
lemma Covers.within (h : g.Covers t i l) (hfirst : FirstStart t g.opener m)
    (hlast : LastEnd t g.closer o) : m ≤ i ∧ l ≤ o := by
  obtain ⟨j, k, hopener, -, hcloser⟩ := h
  obtain ⟨k', -, hlast⟩ := hlast
  exact ⟨hfirst.2 i j hopener, (hlast k l hcloser).2⟩

/-- **Closed form.**  A pattern that matches what a gapped one matches reports the stretch from the
first opener to the last closer, or nothing. -/
theorem spans_eq (hg : Greedy t p) (hc : p.consumes = true)
    (hp : ∀ i l, Matches t p i l ↔ g.Covers t i l) : p.spans t = (g.firstToLast? t).toList := by
  refine (leftmostLongest_spans hg hc).unique ?_
  cases h : g.firstToLast? t with
  | none =>
    refine .done fun i l _ hm => ?_
    obtain ⟨a, ha⟩ := exists_firstToLast ((hp i l).mp hm)
    rw [h] at ha
    cases ha
  | some a =>
    obtain ⟨hfirst, hlast, hcovers⟩ := firstToLast_eq_some h
    have hwithin : ∀ {i l}, Matches t p i l → a.start ≤ i ∧ l ≤ a.stop :=
      fun hm => ((hp _ _).mp hm).within hfirst hlast
    refine .next (Nat.zero_le _) (fun i l _ hlt hm => ?_) ⟨(hp _ _).mpr hcovers, fun l hm => ?_⟩ ?_
    · have := (hwithin hm).1
      omega
    · exact (hwithin hm).2
    · -- a match behind it would have a closer that ends later
      refine .done fun i l hi hm => ?_
      have hle := (hwithin hm).2
      have hlt := hm.lt hc
      omega

end Gapped

/-! ### Runs in front of a gap -/

/-- Steps in which a run in front of a gap leaves all but its first character to the gap. -/
def absorb : List Pattern → List Pattern
  | many1 s :: many .any :: v => one s :: many .any :: absorb v
  | p :: v => p :: absorb v
  | [] => []

lemma matches_many1_anything_iff :
    (∃ j, Matches t (many1 s) i j ∧ Matches t (many .any) j k)
      ↔ ∃ j, Matches t (one s) i j ∧ Matches t (many .any) j k := by
  simp only [matches_anything_iff]
  constructor
  · rintro ⟨j, hrun, hjk, hk⟩
    obtain ⟨hread, hrest⟩ := matches_many1_iff.mp hrun
    exact ⟨i + 1, matches_one_iff.mpr ⟨rfl, hread⟩, hrest.le.trans hjk, hk⟩
  · rintro ⟨j, hone, hjk, hk⟩
    obtain ⟨rfl, hread⟩ := matches_one_iff.mp hone
    exact ⟨i + 1, matches_many1_iff.mpr ⟨hread, .manyNil hread.lt_length⟩, hjk, hk⟩

lemma matches_concat_absorb_iff :
    Matches t (concat (absorb v)) i k ↔ Matches t (concat v) i k := by
  fun_induction absorb v generalizing i with
  | case1 s v ih =>
    have hassoc : ∀ p, Matches t (concat (p :: many .any :: v)) i k ↔
        ∃ m, (∃ j, Matches t p i j ∧ Matches t (many .any) j m) ∧ Matches t (concat v) m k := by
      intro p
      simp only [matches_concat_cons_iff]
      constructor
      · rintro ⟨j, hp, m, hgap, hv⟩
        exact ⟨m, ⟨j, hp, hgap⟩, hv⟩
      · rintro ⟨m, ⟨j, hp, hgap⟩, hv⟩
        exact ⟨j, hp, m, hgap, hv⟩
    rw [hassoc]
    simp only [matches_many1_anything_iff]
    rw [← hassoc]
    simp only [matches_concat_cons_iff, ih]
  | case2 p v _ ih => simp only [matches_concat_cons_iff, ih]
  | case3 => exact Iff.rfl

/-- Patterns with the same steps, up to runs in front of gaps, have the same matches. -/
theorem matches_iff_of_absorb (h : p.variants.map absorb = q.variants.map absorb) :
    Matches t p i j ↔ Matches t q i j := by
  have key : ∀ p : Pattern,
      Matches t p i j ↔ ∃ v ∈ p.variants.map absorb, Matches t (concat v) i j := by
    intro p
    rw [matches_iff_variants]
    simp only [List.mem_map, exists_exists_and_eq_and, matches_concat_absorb_iff]
  rw [key p, key q, h]

end Pattern

end QueryLint
