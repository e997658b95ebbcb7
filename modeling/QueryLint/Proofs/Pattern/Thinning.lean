import QueryLint.Proofs.Pattern.Correspondence
import QueryLint.Proofs.Pattern.Variants

/-!
# Leaving out a whitespace character

Where two whitespace characters stand side by side, the second one can be left out without a pattern
noticing, if the pattern treats whitespace as a separator only: it names no whitespace character, its
runs take all of them or none, and a run that needs whitespace comes right behind something else
(`spaces`).  Then the offsets of both texts correspond (`Thinned.correspondence`): all stay in
order, and the offset between the two characters falls together with the one behind them.
-/

namespace QueryLint

/-! ### Classes and whitespace -/

namespace CharClass

/-- Whether the class holds no whitespace. -/
def isInk : CharClass → Bool
  | exactly a => !isSpace a.toLower
  | word => true
  | space | any | butNot _ => false

/-- Whether the class does not tell whitespace characters apart. -/
def isBlind : CharClass → Bool
  | exactly a => !isSpace a.toLower
  | butNot a => !isSpace a
  | space | word | any => true

variable {s : CharClass} {c d : Char}

lemma isSpace_of_isInk (h : s.isInk = true) (hc : s.contains c = true) : isSpace c = false := by
  by_contra hsp
  rw [Bool.not_eq_false] at hsp
  cases s with
  | exactly a =>
    rw [contains, beq_iff_eq, toLower_of_isSpace hsp] at hc
    simp [isInk, hc, hsp] at h
  | word => simp [contains, isWord_of_isSpace hsp] at hc
  | space | any | butNot a => cases h

lemma contains_eq_of_isBlind (h : s.isBlind = true) (hc : isSpace c = true)
    (hd : isSpace d = true) : s.contains c = s.contains d := by
  cases s with
  | exactly a =>
    have hne : ∀ e, isSpace e = true → (a.toLower == e.toLower) = false := by
      intro e he
      rw [toLower_of_isSpace he, beq_eq_false_iff_ne]
      rintro rfl
      simp [isBlind, he] at h
    rw [contains, contains, hne c hc, hne d hd]
  | space => rw [contains, contains, hc, hd]
  | word => rw [contains, contains, isWord_of_isSpace hc, isWord_of_isSpace hd]
  | any => rfl
  | butNot a =>
    have hne : ∀ e, isSpace e = true → (a != e) = true := by
      intro e he
      rw [bne_iff_ne]
      rintro rfl
      simp [isBlind, he] at h
    rw [contains, contains, hne c hc, hne d hd]

end CharClass

namespace Pattern

/-- Whether some steps treat whitespace as a separator only; `inked` tells whether the step before
ended with something else. -/
def spaces (inked : Bool) : List Pattern → Bool
  | [] => true
  | one s :: rest => s.isInk && spaces true rest
  | boundary :: rest => spaces inked rest
  | many s :: rest => s.isBlind && spaces false rest
  | many1 s :: rest => s.isBlind && (inked || s.isInk) && spaces s.isInk rest
  | _ :: _ => false

/-- Whether the pattern treats whitespace as a separator only, also in front of its matches. -/
def isSpaced (p : Pattern) : Bool :=
  p.consumes && p.firstClasses.all CharClass.isInk && p.variants.all (spaces false)

/-- Steps that treat whitespace as a separator only are to come at an offset, and if the step before
ended with something else, this is not the offset behind `n`. -/
def Spaced (n : Nat) (v : List Pattern) (i : Nat) : Prop :=
  ∃ inked, spaces inked v = true ∧ (inked = true → i ≠ n + 1)

variable {t u : List Char} {p : Pattern} {s : CharClass} {n i j m : Nat}

lemma not_readAt_of_isInk (hs : s.isInk = true) (hsp : ∃ c, t[i]? = some c ∧ isSpace c = true) :
    ¬ ReadAt s t i := by
  rintro ⟨c, hc, hsc⟩
  obtain ⟨c', hc', hsp⟩ := hsp
  rw [hc, Option.some.injEq] at hc'
  rw [← hc', s.isSpace_of_isInk hs hsc] at hsp
  cases hsp

lemma wordAt_eq_false_of_isSpace (hsp : ∃ c, t[i]? = some c ∧ isSpace c = true) :
    wordAt t i = false := by
  obtain ⟨c, hc, hsp⟩ := hsp
  rw [wordAt, hc, Option.any_some, CharClass.isWord_of_isSpace hsp]

/-! ### The two texts -/

/-- At the offset `n` of `t` stand two whitespace characters, of which `u` lacks the second. -/
structure Thinned (t u : List Char) (n : Nat) : Prop where
  length_eq : t.length = u.length + 1
  lt : n < u.length
  before : ∀ i ≤ n, t[i]? = u[i]?
  behind : ∀ i, n < i → t[i + 1]? = u[i]?
  first : ∃ c, t[n]? = some c ∧ isSpace c = true
  second : ∃ c, t[n + 1]? = some c ∧ isSpace c = true

/-- Where an offset of the longer text is in the shorter one. -/
def squeeze (n i : Nat) : Nat :=
  if i ≤ n + 1 then i else i - 1

/-- Where an offset of the shorter text is in the longer one. -/
def stretch (n i : Nat) : Nat :=
  if i ≤ n then i else i + 1

lemma galoisConnection_squeeze (n : Nat) : GaloisConnection (squeeze n) (stretch n) := by
  intro i m
  unfold squeeze stretch
  split <;> split <;> omega

lemma monotone_squeeze (n : Nat) : Monotone (squeeze n) :=
  (galoisConnection_squeeze n).monotone_l

lemma monotone_stretch (n : Nat) : Monotone (stretch n) :=
  (galoisConnection_squeeze n).monotone_u

lemma squeeze_stretch (n m : Nat) : squeeze n (stretch n m) = m := by
  unfold squeeze stretch
  split <;> split <;> omega

lemma stretch_squeeze (hm : m ≠ n + 1) : stretch n (squeeze n m) = m := by
  unfold squeeze stretch
  split <;> split <;> omega

lemma stretch_ne (n m : Nat) : stretch n m ≠ n + 1 := by
  unfold stretch
  split <;> omega

lemma thinned_append (a b : List Char) {c d : Char} (hc : isSpace c = true)
    (hd : isSpace d = true) : Thinned (a ++ c :: d :: b) (a ++ c :: b) a.length where
  length_eq := by
    simp only [List.length_append, List.length_cons]
    omega
  lt := by simp
  before i hi := by
    by_cases hlt : i < a.length
    · rw [List.getElem?_append_left hlt, List.getElem?_append_left hlt]
    · obtain rfl : i = a.length := by omega
      simp
  behind i hi := by
    obtain ⟨k, rfl⟩ : ∃ k, i = a.length + (k + 1) := ⟨i - a.length - 1, by omega⟩
    rw [List.getElem?_append_right (by omega), List.getElem?_append_right (by omega)]
    have hleft : a.length + (k + 1) + 1 - a.length = k + 2 := by omega
    have hright : a.length + (k + 1) - a.length = k + 1 := by omega
    rw [hleft, hright]
    simp
  first := ⟨c, by simp, hc⟩
  second := ⟨d, by simp, hd⟩

namespace Thinned

variable (h : Thinned t u n)

include h

lemma squeeze_le (hi : i ≤ t.length) : squeeze n i ≤ u.length := by
  have hlen := h.length_eq
  have hlt := h.lt
  unfold squeeze
  split <;> omega

lemma stretch_le (hi : i ≤ u.length) : stretch n i ≤ t.length := by
  have hlen := h.length_eq
  unfold stretch
  split <;> omega

/-- Something other than whitespace stands neither at `n` nor behind it. -/
lemma ne_of_readAt (hs : s.isInk = true) (hr : ReadAt s t i) : i ≠ n ∧ i ≠ n + 1 := by
  constructor
  · rintro rfl
    exact not_readAt_of_isInk hs h.first hr
  · rintro rfl
    exact not_readAt_of_isInk hs h.second hr

lemma ne_of_readAt' (hs : s.isInk = true) (hr : ReadAt s u i) : i ≠ n := by
  rintro rfl
  obtain ⟨c, hc, hsc⟩ := hr
  exact (h.ne_of_readAt hs ⟨c, (h.before i le_rfl).trans hc, hsc⟩).1 rfl

lemma wordAt_before (hi : i ≤ n) : wordAt t i = wordAt u i := by
  rw [wordAt, h.before i hi, wordAt]

lemma wordAt_behind (hi : n < i) : wordAt t (i + 1) = wordAt u i := by
  rw [wordAt, h.behind i hi, wordAt]

lemma wordAt_first : wordAt t n = false := wordAt_eq_false_of_isSpace h.first

lemma wordAt_second : wordAt t (n + 1) = false := wordAt_eq_false_of_isSpace h.second

/-- Word boundaries of the two texts; there is none between the two whitespace characters. -/
lemma atBoundary_stretch : AtBoundary u i ↔ AtBoundary t (stretch n i) := by
  unfold stretch AtBoundary
  split
  next hi =>
    have hleft : wordAt t (i - 1) = wordAt u (i - 1) := h.wordAt_before (by omega)
    rw [hleft, h.wordAt_before hi]
  next hi =>
    have hright : wordAt t (i + 1) = wordAt u i := h.wordAt_behind (by omega)
    have hleft : wordAt t (i + 1 - 1) = wordAt u (i - 1) := by
      by_cases hni : i = n + 1
      · subst hni
        rw [Nat.add_sub_cancel, Nat.add_sub_cancel, h.wordAt_second, ← h.wordAt_before le_rfl,
          h.wordAt_first]
      · have hback := h.wordAt_behind (i := i - 1) (by omega)
        rwa [Nat.sub_add_cancel (by omega)] at hback
    rw [hright, hleft]
    have hpos : 0 < i + 1 ↔ 0 < i := by omega
    rw [hpos]

lemma not_atBoundary : ¬ AtBoundary t (n + 1) := by
  intro hb
  have hleft := hb.mpr (by rw [h.wordAt_second]; exact Bool.false_ne_true)
  rw [Nat.add_sub_cancel, h.wordAt_first] at hleft
  exact Bool.false_ne_true hleft.2

lemma atBoundary_squeeze (hb : AtBoundary t i) : AtBoundary u (squeeze n i) := by
  have hi : i ≠ n + 1 := by
    rintro rfl
    exact h.not_atBoundary hb
  rwa [h.atBoundary_stretch, stretch_squeeze hi]

/-! ### Reading -/

lemma readAt_squeeze (hr : ReadAt s t i) (hi : i ≠ n + 1) : ReadAt s u (squeeze n i) := by
  obtain ⟨c, hc, hs⟩ := hr
  refine ⟨c, ?_, hs⟩
  unfold squeeze
  split
  next hle => rw [← h.before i (by omega), hc]
  next hlt =>
    have hback := h.behind (i - 1) (by omega)
    rw [Nat.sub_add_cancel (by omega)] at hback
    rw [← hback, hc]

lemma readAt_stretch (hr : ReadAt s u i) : ReadAt s t (stretch n i) := by
  obtain ⟨c, hc, hs⟩ := hr
  refine ⟨c, ?_, hs⟩
  unfold stretch
  split
  next hle => rw [h.before i hle, hc]
  next hlt => rw [h.behind i (by omega), hc]

/-- A class that does not tell whitespace apart takes the second character if it takes the first. -/
lemma readAt_second (hs : s.isBlind = true) (hr : ReadAt s u n) : ReadAt s t (n + 1) := by
  obtain ⟨c, hc, hsc⟩ := hr
  obtain ⟨c', hc', hsp⟩ := h.first
  obtain ⟨d, hd, hspd⟩ := h.second
  rw [h.before n le_rfl, hc, Option.some.injEq] at hc'
  exact ⟨d, hd, by rw [← s.contains_eq_of_isBlind hs (hc' ▸ hsp) hspd, hsc]⟩

/-! ### Runs -/

lemma matches_many_squeeze (hm : Matches t (many s) i j) :
    Matches u (many s) (squeeze n i) (squeeze n j) := by
  obtain ⟨hij, hj, hr⟩ := matches_many_iff.mp hm
  refine matches_many_iff.mpr ⟨monotone_squeeze n hij, h.squeeze_le hj, fun m h1 h2 => ?_⟩
  -- the character at `m` stands at `stretch n m` in the longer text
  have hbounds : i ≤ stretch n m ∧ stretch n m < j := by
    unfold squeeze at h1 h2
    unfold stretch
    split at h1 <;> split at h2 <;> split <;> omega
  have hread := h.readAt_squeeze (hr _ hbounds.1 hbounds.2) (stretch_ne n m)
  rwa [squeeze_stretch] at hread

lemma matches_many_stretch (hs : s.isBlind = true) (hm : Matches u (many s) i j) :
    Matches t (many s) (stretch n i) (stretch n j) := by
  obtain ⟨hij, hj, hr⟩ := matches_many_iff.mp hm
  refine matches_many_iff.mpr ⟨monotone_stretch n hij, h.stretch_le hj, fun m h1 h2 => ?_⟩
  by_cases hmn : m = n + 1
  · subst hmn
    -- the run takes the first of the two characters, so it takes the second
    have hbounds : i ≤ n ∧ n < j := by
      unfold stretch at h1 h2
      split at h1 <;> split at h2 <;> omega
    exact h.readAt_second hs (hr n hbounds.1 hbounds.2)
  · have hbounds : i ≤ squeeze n m ∧ squeeze n m < j := by
      unfold stretch at h1 h2
      unfold squeeze
      split at h1 <;> split at h2 <;> split <;> omega
    have hread := h.readAt_stretch (hr _ hbounds.1 hbounds.2)
    rwa [stretch_squeeze hmn] at hread

/-! ### Matches -/

/-- A step of a match in the longer text.  A run that needs whitespace does not begin between the two
whitespace characters, so that it keeps a character. -/
lemma step_squeeze {v : List Pattern} {k : Nat} (hv : Spaced n (p :: v) i) (hp : Matches t p i k) :
    Matches u p (squeeze n i) (squeeze n k) ∧ Spaced n v k := by
  obtain ⟨inked, hspaces, hi⟩ := hv
  cases p with
  | one s =>
    obtain ⟨hs, hspaces⟩ := Bool.and_eq_true _ _ ▸ hspaces
    obtain ⟨rfl, hread⟩ := matches_one_iff.mp hp
    obtain ⟨hn, hn'⟩ := h.ne_of_readAt hs hread
    have hnext : squeeze n (i + 1) = squeeze n i + 1 := by
      unfold squeeze
      split <;> split <;> omega
    refine ⟨matches_one_iff.mpr ⟨hnext, h.readAt_squeeze hread hn'⟩, true, hspaces, fun _ => ?_⟩
    omega
  | boundary =>
    obtain ⟨rfl, hk, hb⟩ := matches_boundary_iff.mp hp
    refine ⟨matches_boundary_iff.mpr ⟨rfl, h.squeeze_le hk, h.atBoundary_squeeze hb⟩, ?_⟩
    exact ⟨inked, hspaces, hi⟩
  | many s =>
    obtain ⟨-, hspaces⟩ := Bool.and_eq_true _ _ ▸ hspaces
    refine ⟨h.matches_many_squeeze hp, false, hspaces, fun hf => ?_⟩
    cases hf
  | many1 s =>
    obtain ⟨hside, hspaces⟩ := Bool.and_eq_true _ _ ▸ hspaces
    obtain ⟨-, hside⟩ := Bool.and_eq_true _ _ ▸ hside
    obtain ⟨hik, hrun⟩ := matches_many1_iff_lt.mp hp
    obtain ⟨-, -, hr⟩ := matches_many_iff.mp hrun
    have hi' : i ≠ n + 1 := by
      rcases Bool.or_eq_true _ _ ▸ hside with hinked | hs
      · exact hi hinked
      · exact (h.ne_of_readAt hs (hr i le_rfl hik)).2
    have hlt : squeeze n i < squeeze n k := by
      unfold squeeze
      split <;> split <;> omega
    refine ⟨matches_many1_iff_lt.mpr ⟨hlt, h.matches_many_squeeze hrun⟩, s.isInk, hspaces,
      fun hs => ?_⟩
    have hlast := (h.ne_of_readAt hs (hr (k - 1) (by omega) (by omega))).1
    omega
  | _ => cases hspaces

/-- A step of a match in the shorter text. -/
lemma step_stretch {v : List Pattern} {k : Nat} (hv : ∃ inked, spaces inked (p :: v) = true)
    (hp : Matches u p i k) :
    Matches t p (stretch n i) (stretch n k) ∧ ∃ inked, spaces inked v = true := by
  obtain ⟨inked, hspaces⟩ := hv
  cases p with
  | one s =>
    obtain ⟨hs, hspaces⟩ := Bool.and_eq_true _ _ ▸ hspaces
    obtain ⟨rfl, hread⟩ := matches_one_iff.mp hp
    have hn := h.ne_of_readAt' hs hread
    have hnext : stretch n (i + 1) = stretch n i + 1 := by
      unfold stretch
      split <;> split <;> omega
    exact ⟨matches_one_iff.mpr ⟨hnext, h.readAt_stretch hread⟩, true, hspaces⟩
  | boundary =>
    obtain ⟨rfl, hk, hb⟩ := matches_boundary_iff.mp hp
    refine ⟨matches_boundary_iff.mpr ⟨rfl, h.stretch_le hk, ?_⟩, inked, hspaces⟩
    exact h.atBoundary_stretch.mp hb
  | many s =>
    obtain ⟨hs, hspaces⟩ := Bool.and_eq_true _ _ ▸ hspaces
    exact ⟨h.matches_many_stretch hs hp, false, hspaces⟩
  | many1 s =>
    obtain ⟨hside, hspaces⟩ := Bool.and_eq_true _ _ ▸ hspaces
    obtain ⟨hs, -⟩ := Bool.and_eq_true _ _ ▸ hside
    obtain ⟨hik, hrun⟩ := matches_many1_iff_lt.mp hp
    have hlt : stretch n i < stretch n k := by
      unfold stretch
      split <;> split <;> omega
    exact ⟨matches_many1_iff_lt.mpr ⟨hlt, h.matches_many_stretch hs hrun⟩, s.isInk, hspaces⟩
  | _ => cases hspaces

/-- **A whitespace character more or less.**  For a pattern that treats whitespace as a separator
only, the offsets of both texts correspond. -/
theorem correspondence (hp : p.isSpaced = true) :
    Correspondence t u p (squeeze n) (stretch n) := by
  obtain ⟨hp, hvariants⟩ := Bool.and_eq_true _ _ ▸ hp
  obtain ⟨hconsumes, hfirst⟩ := Bool.and_eq_true _ _ ▸ hp
  have hspaces : ∀ v ∈ p.variants, spaces false v = true := List.all_eq_true.mp hvariants
  refine ⟨galoisConnection_squeeze n, squeeze_stretch n, fun i j hm => ?_, fun i j hm => ?_,
    fun i j hm => ?_⟩
  · obtain ⟨v, hv, hvm⟩ := matches_iff_variants.mp hm
    have hstart : Spaced n v i := ⟨false, hspaces v hv, fun hf => absurd hf Bool.false_ne_true⟩
    refine matches_iff_variants.mpr ⟨v, hv, ?_⟩
    exact matches_concat_transfer (squeeze n) (Spaced n) (h.squeeze_le hm.le_length)
      (fun p v i k hready hp _ => h.step_squeeze hready hp) hstart hvm
  · obtain ⟨v, hv, hvm⟩ := matches_iff_variants.mp hm
    refine matches_iff_variants.mpr ⟨v, hv, ?_⟩
    exact matches_concat_transfer (stretch n) (fun v _ => ∃ inked, spaces inked v = true)
      (h.stretch_le hm.le_length) (fun p v i k hready hp _ => h.step_stretch hready hp)
      ⟨false, hspaces v hv⟩ hvm
  · obtain ⟨s, hs, hread⟩ := hm.exists_firstClass (hm.lt hconsumes)
    exact stretch_squeeze (h.ne_of_readAt (List.all_eq_true.mp hfirst s hs) hread).2

end Thinned

end Pattern

end QueryLint
