import Mathlib.Data.List.Forall2
import Mathlib.Order.GaloisConnection.Basic
import QueryLint.Proofs.Pattern.Scan

/-!
# Scans of corresponding texts

Two texts that differ in a way a pattern does not care about have corresponding matches.  A
`Correspondence` moves offsets from one text to the other and back, in order, and takes matches with
it; then the scan of one text is the scan of the other, moved (`Correspondence.spans_eq`).

The plainest case is a text in which characters are replaced by others that no class of the pattern
tells apart (`correspondence_of_alike`): there the offsets stay as they are.
-/

namespace QueryLint

/-- The stretch between the moved offsets. -/
def Span.move (f : Nat → Nat) (s : Span) : Span :=
  ⟨f s.start, f s.stop⟩

namespace Pattern

/-- Moving offsets of `t` by `f` and offsets of `u` by `g` takes the matches of a pattern from one
text to the other.  Several offsets of `t` may become one in `u`; matches begin at the last of
them. -/
structure Correspondence (t u : List Char) (p : Pattern) (f g : Nat → Nat) : Prop where
  galois : GaloisConnection f g
  onto : ∀ x, f (g x) = x
  forth : ∀ i j, Matches t p i j → Matches u p (f i) (f j)
  back : ∀ i j, Matches u p i j → Matches t p (g i) (g j)
  begins : ∀ i j, Matches t p i j → g (f i) = i

variable {t u : List Char} {p : Pattern} {f g : Nat → Nat} {i j m o : Nat} {l : List Span}

lemma Correspondence.isLongest (h : Correspondence t u p f g) (hl : IsLongest t p i j) :
    IsLongest u p (f i) (f j) := by
  refine ⟨h.forth i j hl.1, fun x hx => ?_⟩
  have hback := h.back (f i) x hx
  rw [h.begins i j hl.1] at hback
  have hle := h.galois.monotone_l (hl.2 (g x) hback)
  rwa [h.onto] at hle

/-- What a scan of one text reports is, moved, what a scan of the other reports. -/
theorem Correspondence.leftmostLongest (h : Correspondence t u p f g)
    (hl : LeftmostLongest t p o l) : LeftmostLongest u p (f o) (l.map (Span.move f)) := by
  induction hl with
  | done hnone =>
    refine .done fun x y hx hm => ?_
    exact hnone (g x) (g y) ((h.galois _ _).mp hx) (h.back x y hm)
  | @next o i j rest hi hfirst hlong _ ih =>
    refine .next (h.galois.monotone_l hi) (fun x y hx hlt hm => ?_) (h.isLongest hlong) ih
    have hgx : g x < i := not_le.mp fun hle => not_le.mpr hlt ((h.galois i x).mpr hle)
    exact hfirst (g x) (g y) ((h.galois _ _).mp hx) hgx (h.back x y hm)

theorem Correspondence.spans_eq (h : Correspondence t u p f g) (hp : ∀ t, Greedy t p)
    (hc : p.consumes = true) : p.spans u = (p.spans t).map (Span.move f) := by
  have hzero : f 0 = 0 := Nat.le_zero.mp ((h.galois 0 0).mpr (Nat.zero_le _))
  have hmoved := h.leftmostLongest (leftmostLongest_spans (hp t) hc)
  rw [hzero] at hmoved
  exact (leftmostLongest_spans (hp u) hc).unique hmoved

/-! ### Characters that look the same -/

/-- Two characters that neither a word boundary nor any of the classes tells apart. -/
def Alike (classes : List CharClass) (c d : Char) : Prop :=
  isWord c = isWord d ∧ ∀ s ∈ classes, s.contains c = s.contains d

lemma alike_refl (classes : List CharClass) (c : Char) : Alike classes c c :=
  ⟨rfl, fun _ _ => rfl⟩

lemma any_getElem?_of_forall₂ {R : Char → Char → Prop} {test : Char → Bool}
    (hR : ∀ c d, R c d → test c = test d) (h : List.Forall₂ R t u) (m : Nat) :
    t[m]?.any test = u[m]?.any test := by
  induction h generalizing m with
  | nil => rfl
  | cons hcd _ ih =>
    cases m with
    | zero => exact hR _ _ hcd
    | succ m => simpa using ih m

/-- Texts that look the same to a pattern have the same matches. -/
theorem matches_iff_of_alike (h : List.Forall₂ (Alike p.classes) t u) :
    Matches t p i j ↔ Matches u p i j := by
  have hlength := h.length_eq
  have hword : ∀ m, wordAt t m = wordAt u m :=
    any_getElem?_of_forall₂ (fun _ _ hcd => hcd.1) h
  have hread : ∀ s ∈ p.classes, ∀ m, ReadAt s t m ↔ ReadAt s u m := by
    intro s hs m
    rw [readAt_iff_any, readAt_iff_any, any_getElem?_of_forall₂ (fun _ _ hcd => hcd.2 s hs) h m]
  clear h
  induction p generalizing i j with
  | empty => rw [matches_empty_iff, matches_empty_iff, hlength]
  | one s => rw [matches_one_iff, matches_one_iff, hread s (by simp [classes])]
  | boundary =>
    rw [matches_boundary_iff, matches_boundary_iff, hlength, AtBoundary, AtBoundary, hword, hword]
  | many s =>
    have hs := hread s (by simp [classes])
    simp only [matches_many_iff, hlength, hs]
  | many1 s =>
    have hs := hread s (by simp [classes])
    simp only [matches_many1_iff, matches_many_iff, hlength, hs]
  | seq p q ihp ihq =>
    have hp := fun s hs => hread s (List.mem_append_left _ hs)
    have hq := fun s hs => hread s (List.mem_append_right _ hs)
    simp only [matches_seq_iff, ihp hp, ihq hq]
  | alt p q ihp ihq =>
    have hp := fun s hs => hread s (List.mem_append_left _ hs)
    have hq := fun s hs => hread s (List.mem_append_right _ hs)
    simp only [matches_alt_iff, ihp hp, ihq hq]
  | opt p ih => simp only [matches_opt_iff, ih hread, hlength]

theorem correspondence_of_alike (h : List.Forall₂ (Alike p.classes) t u) :
    Correspondence t u p id id where
  galois := GaloisConnection.id
  onto _ := rfl
  forth _ _ := (matches_iff_of_alike h).mp
  back _ _ := (matches_iff_of_alike h).mpr
  begins _ _ _ := rfl

end Pattern

end QueryLint
