import QueryLint.Proofs.Pattern.Correspondence
import QueryLint.Proofs.Pattern.Variants

/-!
# A text inside another one

A text that becomes part of a larger one keeps its matches, at the same places of the part, as long
as no word character touches it from outside (`Embedded.matches_iff`): a word boundary at one of
its ends then looks as it did when there was nothing beyond.

What a scan reports may still change, since a match can begin or end in the surroundings.  It does
not if every match that begins in the part ends in the part (`Embedded.leftmostLongest`).  That is
so when the part is cut off by a character that the pattern never reads: a scan of two texts joined
by such a character reports what it reports on each of them (`spans_append_separator`).
-/

namespace QueryLint

namespace Pattern

/-- Whether the last character of a text, if there is one, is no word character. -/
def endsApart (t : List Char) : Bool :=
  !t.getLast?.any isWord

/-- Whether the first character of a text, if there is one, is no word character. -/
def beginsApart (t : List Char) : Bool :=
  !t.head?.any isWord

/-- The text `t` stands in `u` from the offset `lo` on, and no word character touches it from
outside. -/
structure Embedded (t u : List Char) (lo : Nat) : Prop where
  length_le : lo + t.length ≤ u.length
  getElem?_eq : ∀ m < t.length, u[lo + m]? = t[m]?
  before : 0 < lo → wordAt u (lo - 1) = false
  behind : wordAt u (lo + t.length) = false

variable {t u : List Char} {p : Pattern} {s : CharClass} {lo i j m o : Nat} {l l' : List Span}

theorem embedded_append {x y : List Char} (hx : endsApart x = true) (hy : beginsApart y = true) :
    Embedded t (x ++ (t ++ y)) x.length where
  length_le := by simp
  getElem?_eq m hm := by
    rw [List.getElem?_append_right (by omega), Nat.add_sub_cancel_left,
      List.getElem?_append_left hm]
  before hlo := by
    have hlast : x[x.length - 1]? = x.getLast? := List.getLast?_eq_getElem?.symm
    rw [wordAt, List.getElem?_append_left (by omega), hlast]
    simpa [endsApart] using hx
  behind := by
    have hfirst : (t ++ y)[t.length]? = y.head? := by
      rw [List.getElem?_append_right le_rfl, Nat.sub_self, List.head?_eq_getElem?]
    rw [wordAt, List.getElem?_append_right (by omega), Nat.add_sub_cancel_left, hfirst]
    simpa [beginsApart] using hy

namespace Embedded

variable (h : Embedded t u lo)

include h

lemma wordAt_eq (hm : m ≤ t.length) : wordAt u (lo + m) = wordAt t m := by
  rcases Nat.lt_or_eq_of_le hm with hlt | rfl
  · rw [wordAt, h.getElem?_eq m hlt, wordAt]
  · rw [h.behind, wordAt, List.getElem?_eq_none le_rfl]
    rfl

lemma readAt_iff (hm : m < t.length) : ReadAt s u (lo + m) ↔ ReadAt s t m := by
  rw [ReadAt, ReadAt, h.getElem?_eq m hm]

/-- At the ends of the part there is no word character on the outside, as if nothing were there. -/
lemma atBoundary_iff (hm : m ≤ t.length) : AtBoundary u (lo + m) ↔ AtBoundary t m := by
  have hleft : (0 < lo + m ∧ wordAt u (lo + m - 1) = true) ↔ (0 < m ∧ wordAt t (m - 1) = true) := by
    cases m with
    | zero =>
      constructor
      · rintro ⟨hlo, hword⟩
        rw [Nat.add_zero, h.before hlo] at hword
        cases hword
      · rintro ⟨hlt, -⟩
        omega
    | succ m =>
      have hword : wordAt u (lo + (m + 1) - 1) = wordAt t (m + 1 - 1) := h.wordAt_eq (by omega)
      rw [hword]
      constructor
      · rintro ⟨-, hm⟩
        exact ⟨by omega, hm⟩
      · rintro ⟨-, hm⟩
        exact ⟨by omega, hm⟩
  rw [AtBoundary, AtBoundary, hleft, h.wordAt_eq hm]

lemma matches_many_embedded_iff (hj : j ≤ t.length) :
    Matches u (many s) (lo + i) (lo + j) ↔ Matches t (many s) i j := by
  have hlen := h.length_le
  rw [matches_many_iff, matches_many_iff]
  constructor
  · rintro ⟨hij, -, hread⟩
    refine ⟨by omega, hj, fun m h1 h2 => ?_⟩
    exact (h.readAt_iff (by omega)).mp (hread (lo + m) (by omega) (by omega))
  · rintro ⟨hij, -, hread⟩
    refine ⟨by omega, by omega, fun m h1 h2 => ?_⟩
    obtain ⟨m, rfl⟩ := Nat.exists_eq_add_of_le (show lo ≤ m by omega)
    exact (h.readAt_iff (by omega)).mpr (hread m (by omega) (by omega))

/-- **Matches inside the part.**  Between two offsets of the part a pattern matches in the whole
text what it matches in the part alone. -/
theorem matches_iff (hj : j ≤ t.length) :
    Matches u p (lo + i) (lo + j) ↔ Matches t p i j := by
  have hlen := h.length_le
  induction p generalizing i j with
  | empty =>
    rw [matches_empty_iff, matches_empty_iff]
    omega
  | one s =>
    rw [matches_one_iff, matches_one_iff, Nat.add_assoc, Nat.add_left_cancel_iff]
    refine and_congr_right fun hji => h.readAt_iff (by omega)
  | boundary =>
    rw [matches_boundary_iff, matches_boundary_iff, Nat.add_left_cancel_iff]
    refine and_congr_right fun hji => ?_
    rw [h.atBoundary_iff (by omega)]
    exact and_congr_left fun _ => by omega
  | many s => exact h.matches_many_embedded_iff hj
  | many1 s =>
    rw [matches_many1_iff_lt, matches_many1_iff_lt, Nat.add_lt_add_iff_left,
      h.matches_many_embedded_iff hj]
  | seq p q ihp ihq =>
    rw [matches_seq_iff, matches_seq_iff]
    constructor
    · rintro ⟨m, hp, hq⟩
      have him := hp.le
      have hmj := hq.le
      obtain ⟨m, rfl⟩ := Nat.exists_eq_add_of_le (show lo ≤ m by omega)
      exact ⟨m, (ihp (by omega)).mp hp, (ihq hj).mp hq⟩
    · rintro ⟨m, hp, hq⟩
      exact ⟨lo + m, (ihp hp.le_length).mpr hp, (ihq hj).mpr hq⟩
  | alt p q ihp ihq =>
    rw [matches_alt_iff, matches_alt_iff]
    exact or_congr (ihp hj) (ihq hj)
  | opt p ih =>
    rw [matches_opt_iff, matches_opt_iff]
    refine or_congr (ih hj) ?_
    omega

/-- What a scan reports in the part, and behind it what it reports when it starts there, provided
that no match that begins in the part leaves it. -/
theorem leftmostLongest (hinside : ∀ i j, lo ≤ i → i ≤ lo + t.length → Matches u p i j →
      j ≤ lo + t.length)
    (hl : LeftmostLongest t p o l) (ho : o ≤ t.length)
    (hrest : LeftmostLongest u p (lo + t.length + 1) l') :
    LeftmostLongest u p (lo + o) (l.map (Span.move (lo + ·)) ++ l') := by
  have hpart : ∀ {i j}, i ≤ t.length → Matches u p (lo + i) j →
      ∃ k, j = lo + k ∧ Matches t p i k := by
    intro i j hi hm
    have hle := hm.le
    have hj := hinside (lo + i) j (by omega) (by omega) hm
    obtain ⟨k, rfl⟩ := Nat.exists_eq_add_of_le (show lo ≤ j by omega)
    exact ⟨k, rfl, (h.matches_iff (by omega)).mp hm⟩
  induction hl with
  | done hnone =>
    refine hrest.start_earlier (by omega) fun i j hi hlt hm => ?_
    obtain ⟨i, rfl⟩ := Nat.exists_eq_add_of_le (show lo ≤ i by omega)
    obtain ⟨k, -, hk⟩ := hpart (by omega) hm
    exact hnone i k (by omega) hk
  | @next o i j rest hi hfirst hlong _ ih =>
    have hjt := hlong.1.le_length
    have hit := hlong.1.le
    show LeftmostLongest u p (lo + o) (⟨lo + i, lo + j⟩ :: (rest.map (Span.move (lo + ·)) ++ l'))
    refine .next (by omega) (fun i' j' hi' hlt hm => ?_) ⟨?_, fun j' hm => ?_⟩ (ih hjt)
    · -- an earlier match would be an earlier match in the part
      obtain ⟨i', rfl⟩ := Nat.exists_eq_add_of_le (show lo ≤ i' by omega)
      obtain ⟨k, -, hk⟩ := hpart (by omega) hm
      exact hfirst i' k (by omega) (by omega) hk
    · exact (h.matches_iff hjt).mpr hlong.1
    · obtain ⟨k, rfl, hk⟩ := hpart (by omega) hm
      have := hlong.2 k hk
      omega

end Embedded

/-! ### Two texts and a separator between them -/

/-- Whether no class of the pattern holds the character. -/
def avoids (c : Char) (p : Pattern) : Bool :=
  p.classes.all fun s => !s.contains c

/-- A match does not reach over a character that its pattern never reads. -/
lemma le_of_avoids {c : Char} (hp : p.avoids c = true) (hc : t[m]? = some c) (him : i ≤ m)
    (h : Matches t p i j) : j ≤ m := by
  by_contra hlt
  obtain ⟨s, hs, d, hd, hread⟩ := h.exists_class him (not_le.mp hlt)
  obtain rfl : c = d := Option.some.inj (hc.symm.trans hd)
  have hnot := List.all_eq_true.mp hp s hs
  rw [hread] at hnot
  cases hnot

/-- **Joined texts.**  A separator that the pattern never reads, and that is no word character,
keeps the scans of the two texts apart. -/
theorem spans_append_separator {c : Char} (hg : ∀ t, Greedy t p) (hconsumes : p.consumes = true)
    (hp : p.avoids c = true) (hc : isWord c = false) (a b : List Char) :
    p.spans (a ++ c :: b) = p.spans a ++ (p.spans b).map (Span.move (a.length + 1 + ·)) := by
  have hscan : ∀ t, LeftmostLongest t p 0 (p.spans t) :=
    fun t => leftmostLongest_spans (hg t) hconsumes
  have hlength : (a ++ c :: b).length = a.length + 1 + b.length := by
    simp only [List.length_append, List.length_cons]
    omega
  -- nothing matches behind the end of the second text
  have hend : LeftmostLongest (a ++ c :: b) p (a.length + 1 + b.length + 1) [] := by
    refine .done fun i j hi hm => ?_
    have := hm.bounds
    omega
  have hsecond : Embedded b (a ++ c :: b) (a.length + 1) := by
    have h := embedded_append (t := b) (x := a ++ [c]) (y := [])
      (by simp [endsApart, hc]) rfl
    simpa using h
  have hfirst : Embedded a (a ++ c :: b) 0 := by
    have h := embedded_append (t := a) (x := []) (y := c :: b) rfl (by simp [beginsApart, hc])
    simpa using h
  have hbehind := hsecond.leftmostLongest (p := p) (fun i j _ _ hm => hlength ▸ hm.le_length)
    (hscan b) (Nat.zero_le _) hend
  rw [Nat.add_zero, List.append_nil] at hbehind
  have hwhole := hfirst.leftmostLongest (p := p) (fun i j _ hi hm => ?_) (hscan a) (Nat.zero_le _)
    (by rwa [Nat.zero_add])
  · have hstay : Span.move (0 + ·) = id := by
      funext s
      simp [Span.move]
    rw [hstay, List.map_id] at hwhole
    exact (hscan _).unique hwhole
  · exact le_of_avoids hp (by simp) hi hm

end Pattern

end QueryLint
