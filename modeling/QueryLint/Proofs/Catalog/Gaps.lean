import QueryLint.Proofs.Catalog.Matching
import QueryLint.Proofs.Pattern.Gaps

/-!
# The rules with gaps

Five rules look for keywords that belong together with any text between them, statement ends and
line breaks included.  Each of them reports at most one finding, from its first opener to the end
of its last closer (`findMatches_gaps`), and that finding is known from one pass over the
occurrences of each keyword; the going back and forth of the search finds nothing else.
-/

namespace QueryLint

open Pattern

/-- A rule with the parts of its pattern. -/
structure GapRule where
  rule : Rule
  parts : Gapped

namespace Rule

/-- `JOIN`, then `ON`, then `IS NULL`. -/
def joinIsNullGaps : GapRule where
  rule := joinIsNull
  parts := {
    opener := wholeWord "JOIN"
    middle := [wholeWord "ON"]
    closer := concat [opening "IS", gap, text "NULL"] }

/-- `ORDER BY`, then `LIMIT`. -/
def orderByLimitGap : GapRule where
  rule := orderByLimit
  parts := {
    opener := concat [opening "ORDER", gap, text "BY", boundary]
    middle := []
    closer := wholeWord "LIMIT" }

/-- `GROUP BY`, then `HAVING`. -/
def groupByHavingGap : GapRule where
  rule := groupByHaving
  parts := {
    opener := concat [opening "GROUP", gap, text "BY", boundary]
    middle := []
    closer := wholeWord "HAVING" }

/-- `WHERE` and one whitespace character, then `IN (SELECT`. -/
def inSubqueryGap : GapRule where
  rule := inSubquery
  parts := {
    opener := concat [opening "WHERE", one .space]
    middle := []
    closer := concat [opening "IN", slack, text "(", slack, text "SELECT"] }

/-- `WHERE`, then `OR`. -/
def orConditionGap : GapRule where
  rule := orCondition
  parts := {
    opener := wholeWord "WHERE"
    middle := []
    closer := wholeWord "OR" }

end Rule

open Rule

/-- The rules with gaps. -/
def gapRules : List GapRule :=
  [joinIsNullGaps, orderByLimitGap, groupByHavingGap, inSubqueryGap, orConditionGap]

namespace GapRule

variable {g : GapRule} {t : List Char} {i l : Nat}

lemma rule_mem_catalog (h : g ∈ gapRules) : g.rule ∈ catalog := by
  simp only [gapRules, List.mem_cons, List.not_mem_nil, or_false] at h
  rcases h with rfl | rfl | rfl | rfl | rfl <;>
    simp [catalog, joinIsNullGaps, orderByLimitGap, groupByHavingGap, inSubqueryGap, orConditionGap]

/-- The parts are those of the pattern; a run in front of a gap may leave its rest to the gap. -/
lemma absorb_variants (h : g ∈ gapRules) :
    g.rule.pattern.variants.map absorb = g.parts.pattern.variants.map absorb := by
  revert g
  decide +kernel

lemma matches_rule_iff (h : g ∈ gapRules) :
    Matches t g.rule.pattern i l ↔ g.parts.Covers t i l := by
  rw [matches_iff_of_absorb (absorb_variants h), Gapped.matches_pattern_iff]

lemma findMatches_eq (h : g ∈ gapRules) (text : String) :
    g.rule.findMatches text = (g.parts.firstToLast? text.toList).toList.map g.rule.finding := by
  have hcatalog := rule_mem_catalog h
  have hspans := Gapped.spans_eq (greedy_pattern hcatalog) (consumes_pattern hcatalog)
    fun _ _ => matches_rule_iff (t := text.toList) h
  rw [Rule.findMatches, hspans]

end GapRule

/-- **Closed form of the rules with gaps.**  Such a rule reports what one pass over the openers,
the middle parts and the closers finds, so at most one finding.  It reports one exactly if an
opener, the middle parts and a closer follow each other in the text, and that finding runs from the
first opener of the text to the end of its last closer. -/
theorem findMatches_gaps {g : GapRule} (hg : g ∈ gapRules) (text : String) :
    let t := text.toList
    g.rule.findMatches text = (g.parts.firstToLast? t).toList.map g.rule.finding ∧
      (g.rule.findMatches text).length ≤ 1 ∧
      (g.rule.findMatches text ≠ [] ↔ ∃ i j k l, Matches t g.parts.opener i j ∧
        Passes t g.parts.middle j k ∧ Matches t g.parts.closer k l) ∧
      ∀ f ∈ g.rule.findMatches text,
        FirstStart t g.parts.opener f.startOffset ∧ LastEnd t g.parts.closer f.endOffset := by
  intro t
  have heq := GapRule.findMatches_eq hg text
  refine ⟨heq, ?_, ?_, fun f hf => ?_⟩
  · rw [heq, List.length_map]
    cases g.parts.firstToLast? text.toList <;> simp
  · rw [Ne, Rule.findMatches, List.map_eq_nil_iff, spans_eq_nil_iff]
    push Not
    simp only [GapRule.matches_rule_iff hg]
    constructor
    · rintro ⟨i, l, j, k, h⟩
      exact ⟨i, j, k, l, h⟩
    · rintro ⟨i, j, k, l, h⟩
      exact ⟨i, l, j, k, h⟩
  · obtain ⟨a, ha, rfl⟩ := List.mem_map.mp (heq ▸ hf)
    obtain ⟨hfirst, hlast, hcovers⟩ := Gapped.firstToLast_eq_some (Option.mem_toList.mp ha)
    have hspan := g.rule.span_finding ((GapRule.matches_rule_iff hg).mpr hcovers).le
    have hstop : (g.rule.finding a).endOffset = a.stop := congrArg Span.stop hspan
    rw [hstop]
    exact ⟨hfirst, hlast⟩

/-- The first `JOIN` has its `ON` only behind the second one, and an `IS NULL` in front of that
`ON` does not end the search. -/
theorem finding_of_two_joins :
    let text := "join a where b is null join c ON d IS  NULL or e is null; on"
    joinIsNullGaps ∈ gapRules ∧
      joinIsNull.findMatches text = [joinIsNull.finding ⟨0, 56⟩] ∧
      FirstStart text.toList (wholeWord "JOIN") 0 ∧
      LastEnd text.toList (concat [opening "IS", gap, Pattern.text "NULL"]) 56 := by
  intro text
  have hmem : joinIsNullGaps ∈ gapRules := List.mem_cons_self
  obtain ⟨heq, -, -, hends⟩ := findMatches_gaps hmem text
  have hfinding : joinIsNull.findMatches text = [joinIsNull.finding ⟨0, 56⟩] :=
    heq.trans (by decide +kernel)
  have hf : joinIsNull.finding ⟨0, 56⟩ ∈ joinIsNull.findMatches text := by
    rw [hfinding]
    exact List.mem_cons_self
  exact ⟨hmem, hfinding, hends _ hf⟩

end QueryLint
