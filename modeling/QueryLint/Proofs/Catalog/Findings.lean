import QueryLint.Proofs.Catalog.Matching
import QueryLint.Proofs.Pattern.Window

/-!
# The findings of a text

Detailed mode lists findings by rule, in catalog order, and the findings of one rule from left to
right, none reaching into the next (`pairwise_analyze`).  Each of them stands for itself: the rule
that reported it reports the same stretch, and nothing else, when it is shown that stretch alone
(`findMatches_excerpt`).  That is so because every word boundary in the catalog stands next to a
letter of the pattern, so the pattern does not see where the text was cut.
-/

namespace QueryLint

/-! ### The stretches of a scan -/

namespace Pattern

variable {t : List Char} {p : Pattern} {o : Nat} {l : List Span} {s : Span}

lemma LeftmostLongest.le_start (h : LeftmostLongest t p o l) (hs : s ∈ l) : o ≤ s.start := by
  induction h with
  | done => cases hs
  | next hi _ hlong _ ih =>
    rcases List.mem_cons.mp hs with rfl | hs
    · exact hi
    · exact (hi.trans hlong.1.le).trans (ih hs)

/-- No stretch of a scan reaches into a later one. -/
theorem LeftmostLongest.pairwise (h : LeftmostLongest t p o l) :
    l.Pairwise fun a b => a.stop ≤ b.start := by
  induction h with
  | done => exact List.Pairwise.nil
  | next _ _ _ hrest ih => exact List.pairwise_cons.mpr ⟨fun s hs => hrest.le_start hs, ih⟩

/-- A pattern that matches the whole text is reported once. -/
lemma leftmostLongest_of_matches_all (hp : p.consumes = true) (h : Matches t p 0 t.length) :
    LeftmostLongest t p 0 [⟨0, t.length⟩] := by
  refine .next le_rfl (fun i' _ _ hlt => absurd hlt (Nat.not_lt_zero i')) ⟨h, ?_⟩ (.done ?_)
  · exact fun j' hj' => hj'.le_length
  · intro i j hi hm
    have hlt := hm.lt hp
    have hle := hm.le_length
    omega

end Pattern

open Pattern

/-! ### Findings and their rules -/

namespace Finding

/-- The place in the catalog of the rule that a finding names. -/
def ruleIndex (f : Finding) : Nat :=
  catalog.findIdx fun r => r.code = f.code

/-- The stretch of the text that a finding is about. -/
def excerpt (f : Finding) (text : String) : String :=
  String.ofList (window text.toList f.startOffset f.endOffset)

end Finding

namespace Rule

variable {r r' : Rule} {f g : Finding}

/-- The place of a rule in the catalog. -/
def index (r : Rule) : Nat :=
  catalog.findIdx fun r' => r'.code = r.code

lemma map_index : catalog.map index = List.range catalog.length := by
  decide +kernel

lemma getElem?_index (h : r ∈ catalog) : catalog[r.index]? = some r := by
  obtain ⟨i, hi, rfl⟩ := List.mem_iff_getElem.mp h
  have hindices : (catalog.map index)[i]? = (List.range catalog.length)[i]? := by rw [map_index]
  rw [List.getElem?_map, List.getElem?_eq_getElem hi, List.getElem?_range hi] at hindices
  have hindex : catalog[i].index = i := Option.some.inj hindices
  rw [hindex, List.getElem?_eq_getElem hi]

lemma pairwise_index : catalog.Pairwise fun r r' => r.index < r'.index := by
  have hrange : (catalog.map index).Pairwise (· < ·) := by
    rw [map_index]
    exact List.pairwise_lt_range
  exact List.pairwise_map.mp hrange

lemma isSelfContained_pattern (h : r ∈ catalog) : r.pattern.isSelfContained = true := by
  revert r
  decide +kernel

lemma mem_findMatches_iff {text : String} :
    f ∈ r.findMatches text ↔ ∃ s ∈ r.pattern.spans text.toList, r.finding s = f := List.mem_map

lemma ruleIndex_of_mem_findMatches {text : String} (h : f ∈ r.findMatches text) :
    f.ruleIndex = r.index := by
  obtain ⟨s, -, rfl⟩ := mem_findMatches_iff.mp h
  rfl

lemma matches_of_mem_findMatches {text : String} (h : f ∈ r.findMatches text) :
    Matches text.toList r.pattern f.startOffset f.endOffset := by
  have hspan : f.span ∈ r.pattern.spans text.toList := by
    rw [← map_span_findMatches]
    exact List.mem_map_of_mem h
  exact matches_of_mem_spans hspan

theorem pairwise_findMatches (hr : r ∈ catalog) (text : String) :
    (r.findMatches text).Pairwise fun f g => f.endOffset ≤ g.startOffset := by
  have hscan := leftmostLongest_spans (t := text.toList) (greedy_pattern hr) (consumes_pattern hr)
  have hspans := hscan.pairwise
  rw [← map_span_findMatches, List.pairwise_map] at hspans
  exact hspans

/-- **A finding stands for itself.**  Shown nothing but the stretch of a finding, its rule reports
that stretch and nothing else. -/
theorem findMatches_excerpt (hr : r ∈ catalog) {text : String} (h : f ∈ r.findMatches text) :
    r.findMatches (f.excerpt text) = [r.finding ⟨0, f.length⟩] := by
  have hm := matches_of_mem_findMatches h
  have hwindow := hm.window (isSelfContained_pattern hr) le_rfl le_rfl hm.le_length
  have hlength : (window text.toList f.startOffset f.endOffset).length = f.length := by
    rw [length_window hm.le_length]
    exact Nat.add_sub_cancel_left _ _
  have hall : Matches (window text.toList f.startOffset f.endOffset) r.pattern 0
      (window text.toList f.startOffset f.endOffset).length := by
    rwa [Nat.sub_self, ← length_window hm.le_length] at hwindow
  have hscan := leftmostLongest_spans (t := window text.toList f.startOffset f.endOffset)
    (greedy_pattern hr) (consumes_pattern hr)
  have hone := leftmostLongest_of_matches_all (consumes_pattern hr) hall
  rw [findMatches, Finding.excerpt, String.toList_ofList, hscan.unique hone, hlength]
  rfl

end Rule

/-! ### The findings of all rules -/

/-- One finding comes before another: its rule does, or it is of the same rule and begins earlier. -/
def Finding.Before (f g : Finding) : Prop :=
  f.ruleIndex < g.ruleIndex ∨ f.ruleIndex = g.ruleIndex ∧ f.startOffset < g.startOffset

theorem pairwise_analyze (text : String) :
    (analyze text).Pairwise fun f g =>
      f.Before g ∧ (f.code = g.code → f.endOffset ≤ g.startOffset) := by
  refine List.pairwise_flatMap.mpr ⟨fun r hr => ?_, ?_⟩
  · -- findings of one rule
    refine (Rule.pairwise_findMatches hr text).imp_of_mem fun hf hg hle => ?_
    have hlt := (Rule.matches_of_mem_findMatches hf).lt (Rule.consumes_pattern hr)
    refine ⟨.inr ⟨?_, lt_of_lt_of_le hlt hle⟩, fun _ => hle⟩
    rw [Rule.ruleIndex_of_mem_findMatches hf, Rule.ruleIndex_of_mem_findMatches hg]
  · -- findings of different rules
    refine Rule.pairwise_index.imp fun hindex f hf g hg => ?_
    have hlt : f.ruleIndex < g.ruleIndex := by
      rwa [Rule.ruleIndex_of_mem_findMatches hf, Rule.ruleIndex_of_mem_findMatches hg]
    refine ⟨.inl hlt, fun hcode => absurd hlt ?_⟩
    rw [Finding.ruleIndex, Finding.ruleIndex, hcode]
    exact lt_irrefl _

/-- **Findings are ordered, disjoint and self-contained.**  They are listed by rule, in catalog
order, and those of one rule from left to right without overlap.  Each of them is a stretch of the
text that is not empty, with the code, name and message of one rule, and that rule finds in this
stretch alone exactly the whole of it. -/
theorem analyze_ordered_disjoint_selfContained (text : String) :
    ((analyze text).Pairwise fun f g =>
      f.Before g ∧ (f.code = g.code → f.endOffset ≤ g.startOffset)) ∧
    ∀ f ∈ analyze text, 0 < f.length ∧ f.endOffset ≤ text.length ∧
      ∃ r, catalog[f.ruleIndex]? = some r ∧
        f.code = r.code ∧ f.rule = r.name ∧ f.message = r.message ∧
        r.findMatches (f.excerpt text) = [⟨r.code, r.name, r.message, 0, f.length⟩] := by
  refine ⟨pairwise_analyze text, fun f hf => ?_⟩
  obtain ⟨r, hr, hf⟩ := List.mem_flatMap.mp hf
  have hm := Rule.matches_of_mem_findMatches hf
  have hlt : f.startOffset < f.startOffset + f.length := hm.lt (Rule.consumes_pattern hr)
  refine ⟨by omega, ?_, r, ?_, ?_⟩
  · rw [← String.length_toList]
    exact hm.le_length
  · rw [Rule.ruleIndex_of_mem_findMatches hf, Rule.getElem?_index hr]
  · have hexcerpt := Rule.findMatches_excerpt hr hf
    obtain ⟨s, -, rfl⟩ := Rule.mem_findMatches_iff.mp hf
    exact ⟨rfl, rfl, rfl, hexcerpt⟩

end QueryLint
