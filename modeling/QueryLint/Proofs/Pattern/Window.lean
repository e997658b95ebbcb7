import Mathlib.Tactic.Common
import QueryLint.Proofs.Pattern.Variants

/-!
# Matches in a window of the text

A match is judged in the whole text, since a word boundary looks at the characters around it.  For
patterns in which every boundary stands next to a word character of the match itself, cutting away
what lies outside the match changes nothing (`Matches.window`): such a boundary has its word character
on the inside, so on the outside there is none, neither before the cut nor after it.
-/

namespace QueryLint

/-! ### Classes of word characters -/

/-- Whether the class holds word characters only. -/
def CharClass.isWordly : CharClass → Bool
  | exactly a => isWord a.toLower
  | word => true
  | space | any | butNot _ => false

lemma CharClass.isWord_of_isWordly {s : CharClass} {c : Char} (h : s.isWordly = true)
    (hc : s.contains c = true) : isWord c = true := by
  cases s with
  | exactly a =>
    rw [contains, beq_iff_eq] at hc
    rwa [isWordly, hc, isWord_toLower] at h
  | word => exact hc
  | space | any | butNot a => cases h

namespace Pattern

/-- The characters of a text from one offset up to another. -/
def window (t : List Char) (lo hi : Nat) : List Char :=
  (t.take hi).drop lo

variable {t : List Char} {p : Pattern} {s : CharClass} {lo hi i j m : Nat}

lemma length_window (hhi : hi ≤ t.length) : (window t lo hi).length = hi - lo := by
  rw [window, List.length_drop, List.length_take, Nat.min_eq_left hhi]

lemma getElem?_window (hlo : lo ≤ m) (hhi : m < hi) : (window t lo hi)[m - lo]? = t[m]? := by
  rw [window, List.getElem?_drop, Nat.add_sub_cancel' hlo, List.getElem?_take_of_lt hhi]

lemma readAt_window (hlo : lo ≤ m) (hhi : m < hi) (h : ReadAt s t m) :
    ReadAt s (window t lo hi) (m - lo) := by
  obtain ⟨c, hc, hs⟩ := h
  exact ⟨c, (getElem?_window hlo hhi).trans hc, hs⟩

lemma wordAt_window (hlo : lo ≤ m) (hhi : m < hi) :
    wordAt (window t lo hi) (m - lo) = wordAt t m := by
  rw [wordAt, getElem?_window hlo hhi, wordAt]

lemma wordAt_of_readAt (hs : s.isWordly = true) (h : ReadAt s t m) : wordAt t m = true := by
  obtain ⟨c, hc, hsc⟩ := h
  rw [wordAt, hc, Option.any_some, s.isWord_of_isWordly hs hsc]

lemma matches_many_window (h : Matches t (many s) i j) (hlo : lo ≤ i) (hhi : j ≤ hi)
    (hlen : hi ≤ t.length) : Matches (window t lo hi) (many s) (i - lo) (j - lo) := by
  obtain ⟨hij, -, hr⟩ := matches_many_iff.mp h
  refine matches_many_iff.mpr ⟨by omega, by rw [length_window hlen]; omega, fun m h1 h2 => ?_⟩
  have hread : ReadAt s (window t lo hi) (m + lo - lo) :=
    readAt_window (by omega) (by omega) (hr (m + lo) (by omega) (by omega))
  rwa [Nat.add_sub_cancel] at hread

/-! ### Boundaries with a word character inside the window -/

/-- A boundary behind a word character of the window. -/
lemma atBoundary_window_of_left (h : AtBoundary t i) (hlo : lo < i) (hhi : i ≤ hi)
    (hlen : hi ≤ t.length) (hleft : wordAt t (i - 1) = true) :
    AtBoundary (window t lo hi) (i - lo) := by
  have hright : ¬ wordAt t i = true := h.mp ⟨by omega, hleft⟩
  have hleft' : wordAt (window t lo hi) (i - lo - 1) = true := by
    have hshift : i - lo - 1 = i - 1 - lo := by omega
    rw [hshift, wordAt_window (by omega) (by omega), hleft]
  have hright' : ¬ wordAt (window t lo hi) (i - lo) = true := by
    by_cases hi' : i < hi
    · rwa [wordAt_window (by omega) hi']
    · rw [wordAt, List.getElem?_eq_none (by rw [length_window hlen]; omega)]
      exact Bool.false_ne_true
  exact iff_of_true ⟨by omega, hleft'⟩ hright'

/-- A boundary in front of a word character of the window. -/
lemma atBoundary_window_of_right (h : AtBoundary t i) (hlo : lo ≤ i) (hhi : i < hi)
    (hright : wordAt t i = true) : AtBoundary (window t lo hi) (i - lo) := by
  have hleft : ¬ (0 < i ∧ wordAt t (i - 1) = true) := fun hl => h.mp hl hright
  have hright' : wordAt (window t lo hi) (i - lo) = true := by
    rw [wordAt_window hlo hhi, hright]
  refine iff_of_false (fun hl => hleft ⟨by omega, ?_⟩) (not_not_intro hright')
  have hshift : i - lo - 1 = i - 1 - lo := by omega
  rw [hshift, wordAt_window (by omega) (by omega)] at hl
  exact hl.2

/-! ### Patterns whose boundaries lean on their own characters -/

/-- Whether the first of some steps reads a word character. -/
def startsInWord : List Pattern → Bool
  | one s :: _ | many1 s :: _ => s.isWordly
  | _ => false

/-- Whether every boundary among some steps stands next to a step that reads a word character;
`inWord` tells this of the step before. -/
def leans (inWord : Bool) : List Pattern → Bool
  | [] => true
  | one s :: rest | many1 s :: rest => leans s.isWordly rest
  | boundary :: rest => (inWord || startsInWord rest) && leans inWord rest
  | many _ :: rest => leans false rest
  | _ :: _ => false

/-- Whether in each of its variants the boundaries of the pattern lean on its own characters. -/
def isSelfContained (p : Pattern) : Bool :=
  p.variants.all (leans false)

lemma readAt_of_startsInWord {v : List Pattern} (hv : startsInWord v = true)
    (h : Matches t (concat v) i j) : wordAt t i = true ∧ i < j := by
  cases v with
  | nil => cases hv
  | cons p v =>
    obtain ⟨m, hp, hrest⟩ := matches_concat_cons_iff.mp h
    have hle := hrest.le
    cases p with
    | one s =>
      obtain ⟨rfl, hread⟩ := matches_one_iff.mp hp
      exact ⟨wordAt_of_readAt hv hread, hle⟩
    | many1 s =>
      obtain ⟨hread, hrun⟩ := matches_many1_iff.mp hp
      exact ⟨wordAt_of_readAt hv hread, Nat.lt_of_lt_of_le hrun.le hle⟩
    | _ => cases hv

/-- Steps that lean on their own characters are to come at an offset of the window. -/
def Leaning (t : List Char) (lo : Nat) (v : List Pattern) (i : Nat) : Prop :=
  lo ≤ i ∧ ∃ inWord, leans inWord v = true ∧
    (inWord = true → lo < i ∧ wordAt t (i - 1) = true)

/-- A step of a match that lies in the window matches there as well. -/
lemma Leaning.step {v : List Pattern} {k : Nat} (hv : Leaning t lo (p :: v) i)
    (hp : Matches t p i k) (hrest : Matches t (concat v) k j) (hhi : j ≤ hi)
    (hlen : hi ≤ t.length) :
    Matches (window t lo hi) p (i - lo) (k - lo) ∧ Leaning t lo v k := by
  obtain ⟨hlo, inWord, hleans, hin⟩ := hv
  have hik := hp.le
  have hkj := hrest.le
  cases p with
  | one s =>
    obtain ⟨rfl, hread⟩ := matches_one_iff.mp hp
    refine ⟨matches_one_iff.mpr ⟨by omega, readAt_window hlo (by omega) hread⟩, by omega,
      s.isWordly, hleans, fun hs => ?_⟩
    exact ⟨by omega, wordAt_of_readAt hs hread⟩
  | boundary =>
    obtain ⟨hside, hleans⟩ := Bool.and_eq_true _ _ ▸ hleans
    obtain ⟨rfl, hit, hb⟩ := matches_boundary_iff.mp hp
    have hb' : AtBoundary (window t lo hi) (k - lo) := by
      rcases Bool.or_eq_true _ _ ▸ hside with hleft | hright
      · obtain ⟨hlt, hword⟩ := hin hleft
        exact atBoundary_window_of_left hb hlt (by omega) hlen hword
      · obtain ⟨hword, hlt⟩ := readAt_of_startsInWord hright hrest
        exact atBoundary_window_of_right hb hlo (by omega) hword
    refine ⟨matches_boundary_iff.mpr ⟨rfl, ?_, hb'⟩, hlo, inWord, hleans, hin⟩
    rw [length_window hlen]
    omega
  | many s =>
    refine ⟨matches_many_window hp hlo (Nat.le_trans hkj hhi) hlen, by omega, false, hleans, ?_⟩
    exact fun hf => absurd hf Bool.false_ne_true
  | many1 s =>
    obtain ⟨hlt, hrun⟩ := matches_many1_iff_lt.mp hp
    obtain ⟨-, -, hr⟩ := matches_many_iff.mp hrun
    refine ⟨matches_many1_iff_lt.mpr ⟨by omega, ?_⟩, by omega, s.isWordly, hleans, fun hs => ?_⟩
    · exact matches_many_window hrun hlo (Nat.le_trans hkj hhi) hlen
    · exact ⟨by omega, wordAt_of_readAt hs (hr (k - 1) (by omega) (by omega))⟩
  | _ => cases hleans

/-- **Cutting away the context.**  A match of a self-contained pattern is a match in every window of
the text that it lies in. -/
theorem Matches.window (h : Matches t p i j) (hp : p.isSelfContained = true) (hlo : lo ≤ i)
    (hhi : j ≤ hi) (hlen : hi ≤ t.length) :
    Matches (window t lo hi) p (i - lo) (j - lo) := by
  obtain ⟨v, hv, hvm⟩ := matches_iff_variants.mp h
  have hleans : leans false v = true := List.all_eq_true.mp hp v hv
  have hstart : Leaning t lo v i :=
    ⟨hlo, false, hleans, fun hf => absurd hf Bool.false_ne_true⟩
  have hend : j - lo ≤ (Pattern.window t lo hi).length := by
    rw [length_window hlen]
    omega
  refine matches_iff_variants.mpr ⟨v, hv, ?_⟩
  exact matches_concat_transfer (· - lo) (Leaning t lo) hend
    (fun p v i k hready hp hrest => hready.step hp hrest hhi hlen) hstart hvm

end Pattern

end QueryLint
