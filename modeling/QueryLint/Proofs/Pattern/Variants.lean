import QueryLint.Proofs.Pattern.Matches

/-!
# Ways through a pattern

A pattern with alternatives and optional parts stands for finitely many sequences of single steps,
its *variants*, and it matches what one of them matches (`matches_iff_variants`).  Conditions on what
may stand next to what in a pattern are conditions on the neighbours in these sequences.  A match is
taken over from one text to another along them, step by step (`matches_concat_transfer`).
-/

namespace QueryLint

namespace Pattern

/-- For each choice that a match can make, the steps that it goes through. -/
def variants : Pattern → List (List Pattern)
  | empty => [[]]
  | one s => [[one s]]
  | boundary => [[boundary]]
  | many s => [[many s]]
  | many1 s => [[many1 s]]
  | seq p q => p.variants.flatMap fun v => q.variants.map (v ++ ·)
  | alt p q => p.variants ++ q.variants
  | opt p => p.variants ++ [[]]

variable {t : List Char} {p q : Pattern} {s : CharClass} {v w : List Pattern} {i j k : Nat}

/-! ### Steps one after another -/

lemma matches_concat_nil_iff : Matches t (concat []) i j ↔ j = i ∧ i ≤ t.length :=
  matches_empty_iff

lemma matches_concat_cons_iff :
    Matches t (concat (p :: v)) i k ↔ ∃ j, Matches t p i j ∧ Matches t (concat v) j k :=
  matches_seq_iff

lemma matches_concat_singleton_iff : Matches t (concat [p]) i j ↔ Matches t p i j := by
  rw [matches_concat_cons_iff]
  constructor
  · rintro ⟨m, hp, hm⟩
    obtain ⟨rfl, -⟩ := matches_concat_nil_iff.mp hm
    exact hp
  · intro hp
    exact ⟨j, hp, matches_concat_nil_iff.mpr ⟨rfl, hp.le_length⟩⟩

lemma matches_concat_append_iff :
    Matches t (concat (v ++ w)) i k ↔ ∃ j, Matches t (concat v) i j ∧ Matches t (concat w) j k := by
  induction v generalizing i with
  | nil =>
    constructor
    · intro h
      exact ⟨i, matches_concat_nil_iff.mpr ⟨rfl, Nat.le_trans h.le h.le_length⟩, h⟩
    · rintro ⟨j, hv, hw⟩
      obtain ⟨rfl, -⟩ := matches_concat_nil_iff.mp hv
      exact hw
  | cons p v ih =>
    rw [List.cons_append, matches_concat_cons_iff]
    constructor
    · rintro ⟨m, hp, h⟩
      obtain ⟨j, hv, hw⟩ := ih.mp h
      exact ⟨j, matches_concat_cons_iff.mpr ⟨m, hp, hv⟩, hw⟩
    · rintro ⟨j, hpv, hw⟩
      obtain ⟨m, hp, hv⟩ := matches_concat_cons_iff.mp hpv
      exact ⟨m, hp, ih.mpr ⟨j, hv, hw⟩⟩

/-- A run with at least one character is a run that is not empty. -/
lemma matches_many1_iff_lt : Matches t (many1 s) i j ↔ i < j ∧ Matches t (many s) i j := by
  rw [matches_many1_iff]
  constructor
  · rintro ⟨⟨c, hc, hs⟩, h⟩
    exact ⟨h.le, .manyCons hc hs h⟩
  · rintro ⟨hlt, h⟩
    obtain ⟨-, hj, hr⟩ := matches_many_iff.mp h
    exact ⟨hr i (Nat.le_refl i) hlt, matches_many_iff.mpr ⟨hlt, hj, fun m h1 h2 => hr m (by omega) h2⟩⟩

/-- **Step by step.**  A match of some steps is taken over to another text, its offsets moved by `f`,
if every step is.  `Ready v i` says what is known about the place `i` where the steps `v` are still to
come; each step hands it on to the next. -/
theorem matches_concat_transfer {u : List Char} (f : Nat → Nat)
    (Ready : List Pattern → Nat → Prop) (hend : f j ≤ u.length)
    (hstep : ∀ p v i k, Ready (p :: v) i → Matches t p i k → Matches t (concat v) k j →
      Matches u p (f i) (f k) ∧ Ready v k)
    (hv : Ready v i) (h : Matches t (concat v) i j) : Matches u (concat v) (f i) (f j) := by
  induction v generalizing i with
  | nil =>
    obtain ⟨rfl, -⟩ := matches_concat_nil_iff.mp h
    exact matches_concat_nil_iff.mpr ⟨rfl, hend⟩
  | cons p v ih =>
    obtain ⟨k, hp, hrest⟩ := matches_concat_cons_iff.mp h
    obtain ⟨hmoved, hnext⟩ := hstep p v i k hv hp hrest
    exact matches_concat_cons_iff.mpr ⟨f k, hmoved, ih hnext hrest⟩

/-! ### A pattern matches what a variant matches -/

theorem matches_iff_variants :
    Matches t p i j ↔ ∃ v ∈ p.variants, Matches t (concat v) i j := by
  induction p generalizing i j with
  | empty => simp [variants, concat]
  | one s | boundary | many s | many1 s => simp [variants, matches_concat_singleton_iff]
  | seq p q ihp ihq =>
    rw [matches_seq_iff]
    constructor
    · rintro ⟨m, hp, hq⟩
      obtain ⟨v, hv, hvm⟩ := ihp.mp hp
      obtain ⟨w, hw, hwm⟩ := ihq.mp hq
      refine ⟨v ++ w, ?_, matches_concat_append_iff.mpr ⟨m, hvm, hwm⟩⟩
      exact List.mem_flatMap.mpr ⟨v, hv, List.mem_map_of_mem hw⟩
    · rintro ⟨vw, hvw, h⟩
      obtain ⟨v, hv, hvw⟩ := List.mem_flatMap.mp hvw
      obtain ⟨w, hw, rfl⟩ := List.mem_map.mp hvw
      obtain ⟨m, hvm, hwm⟩ := matches_concat_append_iff.mp h
      exact ⟨m, ihp.mpr ⟨v, hv, hvm⟩, ihq.mpr ⟨w, hw, hwm⟩⟩
  | alt p q ihp ihq =>
    rw [matches_alt_iff, ihp, ihq]
    simp [variants, or_and_right, exists_or]
  | opt p ih =>
    rw [matches_opt_iff, ih]
    simp [variants, or_and_right, exists_or, matches_concat_nil_iff]

end Pattern

end QueryLint
