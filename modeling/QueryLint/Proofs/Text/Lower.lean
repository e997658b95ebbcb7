import Mathlib.Data.List.Basic
import Mathlib.Data.List.TakeWhile
import QueryLint.Text.Blank
import QueryLint.Text.Lower

/-!
# Lower case is reached in one step

Putting a text into lower case a second time changes nothing (`lower_lower`), although the rules
look at the text around a sigma and some letters become two.  It is enough that no character of the
result is touched by the rules again (`IsLowered`): what the table of capital letters leads to lies
beside all capital letters of the table.  The table is a list of runs, so that this is asked of pairs
of runs (`CaseRun.isApart`) and not of single letters.

Nor does lower case lead to commas or blanks, except for those that the text had; so the ends of a
text that are not blank stay that way (`IsTrimmed.lowerFrom`).
-/

namespace QueryLint

/-! ### Runs of letters -/

namespace CaseRun

variable {r s : CaseRun} {n : Nat}

/-- The lower cases of the letters of a run, which are a run themselves. -/
def lowered (r : CaseRun) : CaseRun :=
  ⟨(r.first + r.shift).toNat, (r.last + r.shift).toNat, r.stride, 0⟩

/-- A test whether two runs have nothing in common: one ends before the other begins, or they go
past each other in steps of two. -/
def isApart (r s : CaseRun) : Bool :=
  r.last.blt s.first || s.last.blt r.first ||
    (s.stride == 2 && (r.stride == 2 || r.first == r.last) && (r.first + s.first) % 2 == 1)

/-- A test whether a run lies beside a range. -/
def isBeside (r : CaseRun) (range : CodeRange) : Bool :=
  r.last.blt range.1 || range.2.blt r.first

lemma contains_iff :
    r.contains n = true ↔ r.first ≤ n ∧ n ≤ r.last ∧ (n - r.first) % r.stride = 0 := by
  simp [contains, and_assoc]

lemma contains_eq_false_of_isApart (h : r.isApart s = true) (hn : r.contains n = true) :
    s.contains n = false := by
  rw [← Bool.not_eq_true]
  intro hs
  rw [contains_iff] at hn hs
  simp only [isApart, Bool.or_eq_true, Bool.and_eq_true, Nat.blt_eq, beq_iff_eq] at h
  obtain (h | h) | ⟨⟨hstride, hstep⟩, hparity⟩ := h
  · omega
  · omega
  · rw [hstride] at hs
    rcases hstep with hstep | hstep
    · rw [hstep] at hn
      omega
    · omega

lemma not_mem_range_of_isBeside {range : CodeRange} (h : r.isBeside range = true)
    (hn : r.contains n = true) : ¬ (range.1 ≤ n ∧ n ≤ range.2) := by
  rw [contains_iff] at hn
  simp only [isBeside, Bool.or_eq_true, Nat.blt_eq] at h
  omega

lemma contains_lowered (hpos : 0 ≤ (r.first : Int) + r.shift) (hn : r.contains n = true) :
    r.lowered.contains (n + r.shift).toNat = true := by
  rw [contains_iff] at hn ⊢
  obtain ⟨hfirst, hlast, hstride⟩ := hn
  have hstep : ((n : Int) + r.shift).toNat - ((r.first : Int) + r.shift).toNat = n - r.first := by
    omega
  refine ⟨?_, ?_, ?_⟩
  · show ((r.first : Int) + r.shift).toNat ≤ _
    omega
  · show _ ≤ ((r.last : Int) + r.shift).toNat
    omega
  · show (((n : Int) + r.shift).toNat - ((r.first : Int) + r.shift).toNat) % r.stride = 0
    rw [hstep, hstride]

end CaseRun

/-! ### The table of capital letters -/

/-- Code points that no letter of the table has as its lower case: the comma, the two letters with
rules of their own, halves of surrogate pairs, and blanks. -/
def unreachedRanges : List CodeRange :=
  (0x2C, 0x2C) :: (0x130, 0x130) :: (0x3A3, 0x3A3) :: (0xD800, 0xDFFF) :: blankRanges

/-- No lower case of a letter is a letter of the table. -/
lemma isApart_lowered {r s : CaseRun} (hr : r ∈ caseRuns) (hs : s ∈ caseRuns) :
    r.lowered.isApart s = true := by
  have hall : (caseRuns.all fun r => caseRuns.all r.lowered.isApart) = true := by decide +kernel
  exact List.all_eq_true.mp (List.all_eq_true.mp hall r hr) s hs

lemma lowered_bounds {r : CaseRun} (hr : r ∈ caseRuns) :
    0 ≤ (r.first : Int) + r.shift ∧ r.lowered.last < 0x110000 ∧
      ∀ range ∈ unreachedRanges, r.lowered.isBeside range = true := by
  have hall : (caseRuns.all fun r =>
      decide (0 ≤ (r.first : Int) + r.shift) && r.lowered.last.blt 0x110000 &&
        unreachedRanges.all r.lowered.isBeside) = true := by
    decide +kernel
  have h := List.all_eq_true.mp hall r hr
  simp only [Bool.and_eq_true, decide_eq_true_eq, Nat.blt_eq, List.all_eq_true] at h
  exact ⟨h.1.1, h.1.2, h.2⟩

/-- A code point that the table leads to. -/
def IsImage (n : Nat) : Prop :=
  ∃ r ∈ caseRuns, r.lowered.contains n = true

namespace IsImage

variable {n : Nat}

lemma of_find? {m : Nat} {r : CaseRun} (h : caseRuns.find? (fun r => r.contains m) = some r) :
    IsImage (m + r.shift).toNat := by
  have hr : r ∈ caseRuns := List.mem_of_find?_eq_some h
  have hm : r.contains m = true := by simpa using List.find?_some h
  exact ⟨r, hr, CaseRun.contains_lowered (lowered_bounds hr).1 hm⟩

lemma not_mem_range (h : IsImage n) {range : CodeRange} (hrange : range ∈ unreachedRanges) :
    ¬ (range.1 ≤ n ∧ n ≤ range.2) := by
  obtain ⟨r, hr, hn⟩ := h
  exact CaseRun.not_mem_range_of_isBeside ((lowered_bounds hr).2.2 range hrange) hn

/-- Every such code point is a character. -/
lemma toNat_ofNat (h : IsImage n) : (Char.ofNat n).toNat = n := by
  have hmem : (0xD800, 0xDFFF) ∈ unreachedRanges := by decide
  have hhalf : ¬ (0xD800 ≤ n ∧ n ≤ 0xDFFF) := h.not_mem_range hmem
  obtain ⟨r, hr, hn⟩ := h
  have hlast := (lowered_bounds hr).2.1
  have hle := (CaseRun.contains_iff.mp hn).2.1
  have hvalid : n.isValidChar := by
    rw [Nat.isValidChar]
    omega
  rw [Char.ofNat, dif_pos hvalid]
  rfl

lemma find?_eq_none (h : IsImage n) : caseRuns.find? (fun s => s.contains n) = none := by
  obtain ⟨r, hr, hn⟩ := h
  rw [List.find?_eq_none]
  intro s hs
  rw [CaseRun.contains_eq_false_of_isApart (isApart_lowered hr hs) hn]
  exact Bool.false_ne_true

end IsImage

/-! ### Characters -/

/-- A character that the rules do not touch. -/
structure IsLowered (c : Char) : Prop where
  not_sigma : c ≠ 'Σ'
  fixed : lowerChar c = [c]

/-- A character that lower case adds to a text: it is untouched from then on, and neither a comma
nor a blank. -/
structure IsAdded (c : Char) : Prop extends IsLowered c where
  not_comma : c ≠ ','
  not_blank : isBlank c = false

lemma lowerChar_of_find?_eq_none {c : Char} (hdot : c ≠ 'İ')
    (h : caseRuns.find? (fun r => r.contains c.toNat) = none) : lowerChar c = [c] := by
  rw [lowerChar, if_neg (by simpa using hdot), h]

lemma IsImage.isAdded {n : Nat} (h : IsImage n) : IsAdded (Char.ofNat n) := by
  have hn := h.toNat_ofNat
  have hne : ∀ b : Char, (b.toNat, b.toNat) ∈ unreachedRanges → Char.ofNat n ≠ b := by
    rintro b hb rfl
    exact h.not_mem_range hb ⟨Nat.le_of_eq hn, Nat.le_of_eq hn.symm⟩
  have hfind : caseRuns.find? (fun r => r.contains (Char.ofNat n).toNat) = none := by
    rw [hn]
    exact h.find?_eq_none
  have hblank : isBlank (Char.ofNat n) = false := by
    rw [isBlank, inRanges, List.any_eq_false]
    intro range hrange
    have hmem : range ∈ unreachedRanges := by simp [unreachedRanges, hrange]
    rw [hn]
    simpa using h.not_mem_range hmem
  exact {
    not_sigma := hne 'Σ' (by decide)
    fixed := lowerChar_of_find?_eq_none (hne 'İ' (by decide)) hfind
    not_comma := hne ',' (by decide)
    not_blank := hblank }

/-- A character of the lower case of another one is untouched from then on; it is the same character
or one that was added. -/
lemma mem_lowerChar {c d : Char} (hc : c ≠ 'Σ') (hd : d ∈ lowerChar c) :
    d = c ∧ IsLowered d ∨ IsAdded d := by
  by_cases hdot : c = 'İ'
  · rw [lowerChar, if_pos (by simpa using hdot)] at hd
    simp only [List.mem_cons, List.not_mem_nil, or_false] at hd
    right
    rcases hd with rfl | rfl
    · exact ⟨⟨by decide, by decide +kernel⟩, by decide, by decide⟩
    · exact ⟨⟨by decide, by decide +kernel⟩, by decide, by decide⟩
  · cases hfind : caseRuns.find? fun r => r.contains c.toNat with
    | none =>
      have hfixed := lowerChar_of_find?_eq_none hdot hfind
      rw [hfixed, List.mem_singleton] at hd
      subst hd
      exact .inl ⟨rfl, hc, hfixed⟩
    | some r =>
      rw [lowerChar, if_neg (by simpa using hdot), hfind, List.mem_singleton] at hd
      rw [hd]
      exact .inr (IsImage.of_find? hfind).isAdded

lemma lowerChar_ne_nil (c : Char) : lowerChar c ≠ [] := by
  unfold lowerChar
  split
  · exact List.cons_ne_nil _ _
  · split <;> exact List.cons_ne_nil _ _

/-! ### Texts -/

/-- The lower case of a character between two texts, the first read backwards. -/
def lowerAt (before : List Char) (c : Char) (after : List Char) : List Char :=
  if c == 'Σ' then [if isFinalSigma before after then 'ς' else 'σ'] else lowerChar c

section Texts

variable {before after cs : List Char} {c d : Char}

lemma lowerFrom_cons (before : List Char) (c : Char) (after : List Char) :
    lowerFrom before (c :: after) = lowerAt before c after ++ lowerFrom (c :: before) after := rfl

lemma isAdded_sigma : IsAdded 'σ' :=
  ⟨⟨by decide, by decide +kernel⟩, by decide, by decide⟩

lemma isAdded_finalSigma : IsAdded 'ς' :=
  ⟨⟨by decide, by decide +kernel⟩, by decide, by decide⟩

lemma mem_lowerAt (hd : d ∈ lowerAt before c after) : d = c ∧ IsLowered d ∨ IsAdded d := by
  by_cases hc : c = 'Σ'
  · rw [lowerAt, if_pos (by simpa using hc), List.mem_singleton] at hd
    right
    rw [hd]
    split
    · exact isAdded_finalSigma
    · exact isAdded_sigma
  · rw [lowerAt, if_neg (by simpa using hc)] at hd
    exact mem_lowerChar hc hd

lemma lowerAt_ne_nil (before : List Char) (c : Char) (after : List Char) :
    lowerAt before c after ≠ [] := by
  unfold lowerAt
  split
  · exact List.cons_ne_nil _ _
  · exact lowerChar_ne_nil c

lemma lowerAt_of_isLowered (h : IsLowered c) : lowerAt before c after = [c] := by
  rw [lowerAt, if_neg (by simpa using h.not_sigma), h.fixed]

/-- A character of a lower case was in the text and is not touched, or was added. -/
lemma mem_lowerFrom (hd : d ∈ lowerFrom before cs) : d ∈ cs ∧ IsLowered d ∨ IsAdded d := by
  induction cs generalizing before with
  | nil => cases hd
  | cons c cs ih =>
    rw [lowerFrom_cons, List.mem_append] at hd
    rcases hd with hd | hd
    · rcases mem_lowerAt hd with ⟨rfl, hlowered⟩ | hadded
      · exact .inl ⟨List.mem_cons_self, hlowered⟩
      · exact .inr hadded
    · exact (ih hd).imp_left fun ⟨hmem, hlowered⟩ => ⟨List.mem_cons_of_mem c hmem, hlowered⟩

lemma lowerFrom_of_isLowered (h : ∀ c ∈ cs, IsLowered c) : lowerFrom before cs = cs := by
  induction cs generalizing before with
  | nil => rfl
  | cons c cs ih =>
    rw [List.forall_mem_cons] at h
    rw [lowerFrom_cons, lowerAt_of_isLowered h.1, ih h.2]
    rfl

lemma lowerFrom_ne_nil (h : cs ≠ []) : lowerFrom before cs ≠ [] := by
  obtain ⟨c, cs, rfl⟩ := List.exists_cons_of_ne_nil h
  rw [lowerFrom_cons]
  exact List.append_ne_nil_of_left_ne_nil (lowerAt_ne_nil before c cs) _

end Texts

/-- **Lower case is reached in one step.** -/
theorem lower_lower (s : String) : lower (lower s) = lower s := by
  have hlowered : ∀ c ∈ lowerFrom [] s.toList, IsLowered c := fun c hc =>
    (mem_lowerFrom hc).elim And.right IsAdded.toIsLowered
  rw [lower, lower, String.toList_ofList, lowerFrom_of_isLowered hlowered]

/-! ### Blanks at the ends -/

/-- A text with no blank at its ends. -/
structure IsTrimmed (cs : List Char) : Prop where
  first : ∀ c ∈ cs.head?, isBlank c = false
  last : ∀ c ∈ cs.getLast?, isBlank c = false

lemma not_of_mem_head?_dropWhile {p : Char → Bool} {cs : List Char} :
    ∀ c ∈ (cs.dropWhile p).head?, p c = false := by
  intro c hc
  have h := List.head?_dropWhile_not p cs
  rw [Option.mem_def.mp hc] at h
  exact h

lemma dropWhile_of_head? {p : Char → Bool} {cs : List Char} (h : ∀ c ∈ cs.head?, p c = false) :
    cs.dropWhile p = cs := by
  cases cs with
  | nil => rfl
  | cons c cs => rw [List.dropWhile_cons_of_neg (by simpa using h c rfl)]

lemma IsTrimmed.trimWhere_eq {cs : List Char} (h : IsTrimmed cs) : trimWhere isBlank cs = cs := by
  have hlast : ∀ c ∈ cs.reverse.head?, isBlank c = false := by
    rw [List.head?_reverse]
    exact h.last
  rw [trimWhere, dropWhile_of_head? h.first, dropWhile_of_head? hlast, List.reverse_reverse]

lemma isTrimmed_trimWhere (cs : List Char) : IsTrimmed (trimWhere isBlank cs) := by
  have hprefix : trimWhere isBlank cs <+: cs.dropWhile isBlank := by
    rw [trimWhere, ← List.reverse_suffix, List.reverse_reverse]
    exact List.dropWhile_suffix _
  refine ⟨?_, ?_⟩
  · intro c hc
    obtain ⟨behind, hbehind⟩ := hprefix
    have hfirst : c ∈ (cs.dropWhile isBlank).head? := by
      rw [← hbehind, List.head?_append, Option.mem_def.mp hc]
      rfl
    exact not_of_mem_head?_dropWhile c hfirst
  · rw [trimWhere, List.getLast?_reverse]
    exact not_of_mem_head?_dropWhile

/-- Blanks around a text do not matter. -/
lemma trimWhere_pad {b cs b' : List Char} (hb : ∀ c ∈ b, isBlank c = true)
    (hb' : ∀ c ∈ b', isBlank c = true) :
    trimWhere isBlank (b ++ (cs ++ b')) = trimWhere isBlank cs := by
  have hreverse : ∀ c ∈ b'.reverse, isBlank c = true := by simpa using hb'
  rw [trimWhere, List.dropWhile_append_of_pos hb, List.dropWhile_append, trimWhere]
  split
  next hempty =>
    rw [List.isEmpty_iff.mp hempty, List.dropWhile_eq_nil_iff.mpr hb']
  next => rw [List.reverse_append, List.dropWhile_append_of_pos hreverse]

lemma trimWhere_eq_nil {cs : List Char} (h : ∀ c ∈ cs, isBlank c = true) :
    trimWhere isBlank cs = [] := by
  rw [trimWhere, List.dropWhile_eq_nil_iff.mpr h]
  rfl

lemma trimWhere_subset (p : Char → Bool) (cs : List Char) : trimWhere p cs ⊆ cs := by
  intro c hc
  rw [trimWhere, List.mem_reverse] at hc
  have hinner := (List.dropWhile_suffix p).subset hc
  rw [List.mem_reverse] at hinner
  exact (List.dropWhile_suffix p).subset hinner

/-- Ends that are not blank stay that way in lower case. -/
theorem IsTrimmed.lowerFrom {cs before : List Char} (h : IsTrimmed cs) :
    IsTrimmed (lowerFrom before cs) := by
  have hat : ∀ {before after : List Char} {c : Char}, isBlank c = false →
      ∀ d ∈ lowerAt before c after, isBlank d = false := by
    intro before after c hc d hd
    rcases mem_lowerAt hd with ⟨rfl, -⟩ | hadded
    · exact hc
    · exact hadded.not_blank
  refine ⟨?_, ?_⟩
  · cases cs with
    | nil => exact h.first
    | cons c cs =>
      rw [lowerFrom_cons, List.head?_append_of_ne_nil _ (lowerAt_ne_nil before c cs)]
      exact fun d hd => hat (h.first c rfl) d (List.mem_of_head? hd)
  · have hlast := h.last
    clear h
    induction cs generalizing before with
    | nil => exact hlast
    | cons c cs ih =>
      rw [lowerFrom_cons]
      cases cs with
      | nil =>
        rw [QueryLint.lowerFrom, List.append_nil]
        exact fun d hd => hat (hlast c rfl) d (List.mem_of_getLast? hd)
      | cons c' cs =>
        rw [List.getLast?_append_of_ne_nil _ (lowerFrom_ne_nil (List.cons_ne_nil c' cs))]
        refine ih fun d hd => hlast d ?_
        rwa [List.getLast?_cons_cons]

end QueryLint
