import QueryLint.Analysis
import QueryLint.Proofs.Pattern.Scan

/-!
# The catalog reports leftmost-longest matches

Greedy search with backtracking reports the longest match only for patterns of a suitable form.  All
rules of the catalog have such a form: thirteen are plain, the two arms of `outerJoin` never
overlap, and nothing that `likeLeadingWildcard` wants behind its optional `NOT` can begin inside it.
So each rule reports the stretches of the leftmost-longest scan, and nothing else.
-/

namespace QueryLint

open Pattern

/-- The stretch of text that a finding is about. -/
def Finding.span (f : Finding) : Span :=
  ⟨f.startOffset, f.endOffset⟩

namespace Rule

variable {r : Rule} {t : List Char}

/-! ### Every rule of the catalog is greedy -/

lemma consumes_pattern (h : r ∈ catalog) : r.pattern.consumes = true := by
  revert r
  decide

lemma isPlain_or (h : r ∈ catalog) :
    r.pattern.isPlain = true ∨ r = likeLeadingWildcard ∨ r = outerJoin := by
  revert r
  decide +kernel

/-- Nothing that begins with `LIKE` begins inside `NOT` and the whitespace behind it. -/
theorem greedy_likeLeadingWildcard : Greedy t likeLeadingWildcard.pattern := by
  have plain : ∀ {p : Pattern}, p.isPlain = true → Greedy t p := greedy_of_isPlain
  have hnot : Greedy t (concat [text "NOT", gap]) := plain (by decide)
  have hlike : Greedy t (concat [text "LIKE", gap, text "'%"]) := plain (by decide)
  have hopt := hnot.opt_seq hlike (by decide) (by decide) (by decide)
  exact (plain (by decide)).seq ((plain (by decide)).seq
    ((plain (by decide)).seq ((plain (by decide)).seq hopt)))

/-- The two arms never overlap: there is no `R` in `LEFT JOIN` and no `L` in `RIGHT JOIN`. -/
theorem greedy_outerJoin : Greedy t outerJoin.pattern :=
  (greedy_of_isPlain (by decide)).alt (greedy_of_isPlain (by decide)) (by decide) (by decide)
    (by decide) (by decide)

theorem greedy_pattern (h : r ∈ catalog) : Greedy t r.pattern := by
  rcases isPlain_or h with hp | rfl | rfl
  · exact greedy_of_isPlain hp
  · exact greedy_likeLeadingWildcard
  · exact greedy_outerJoin

/-! ### What a rule reports -/

lemma span_finding (r : Rule) {s : Span} (h : s.start ≤ s.stop) : (r.finding s).span = s := by
  obtain ⟨i, j⟩ := s
  have hj : i + (j - i) = j := Nat.add_sub_cancel' h
  simp [Finding.span, finding, Finding.endOffset, Span.length, hj]

lemma map_span_findMatches (r : Rule) (text : String) :
    (r.findMatches text).map Finding.span = r.pattern.spans text.toList := by
  rw [findMatches, List.map_map]
  refine (List.map_congr_left fun s hs => ?_).trans (List.map_id _)
  exact r.span_finding (matches_of_mem_spans hs).le

/-- **The matcher is exact and leftmost-longest.**  On every text a rule of the catalog reports the
stretches of the leftmost-longest scan for its pattern; in particular it is silent exactly if no
stretch of the text matches. -/
theorem findMatches_leftmostLongest (hr : r ∈ catalog) (text : String) :
    (∀ l, LeftmostLongest text.toList r.pattern 0 l ↔
      (r.findMatches text).map Finding.span = l) ∧
    (r.findMatches text = [] ↔ ∀ i j, ¬ Matches text.toList r.pattern i j) := by
  have hscan := leftmostLongest_spans (t := text.toList) (greedy_pattern hr) (consumes_pattern hr)
  rw [map_span_findMatches]
  refine ⟨fun l => ⟨fun h => hscan.unique h, fun h => h ▸ hscan⟩, ?_⟩
  rw [← spans_eq_nil_iff, findMatches, List.map_eq_nil_iff]

theorem leftmostLongest_outer_joins :
    outerJoin ∈ catalog ∧
      LeftmostLongest "left join a RIGHT\nJOIN b".toList outerJoin.pattern 0 [⟨0, 9⟩, ⟨12, 22⟩] :=
  ⟨by decide, ((findMatches_leftmostLongest (by decide) _).1 _).mpr (by decide)⟩

end Rule

end QueryLint
