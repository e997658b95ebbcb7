import QueryLint.Proofs.Catalog.Matching
import QueryLint.Proofs.Pattern.Choice

/-!
# The rules without gaps

Ten rules have no gap of any length.  Every run in their patterns is followed by something that
cannot begin inside it, so the text alone decides where each run ends, and a finding is known from
the offset where it begins.  How a search goes through such a pattern is then of no importance
(`boundedRules_unambiguous`).

Three of them begin with the same words, a column behind `WHERE`, and differ in what they want to
see next; at most one of these matches at an offset.
-/

namespace QueryLint

open Pattern

namespace Rule

/-- The rules without a gap of any length. -/
def boundedRules : List Rule :=
  [selectStar, likeLeadingWildcard, outerJoin, equalsNull, notEqualsNull, orderByRand, derivedTable,
    functionInWhere, distinct, tempTable]

/-- The rules on how a column behind `WHERE` is compared with something fixed. -/
def comparisonRules : List Rule :=
  [likeLeadingWildcard, equalsNull, notEqualsNull]

variable {r : Rule} {t : List Char}

lemma boundedRules_eq_filter :
    boundedRules = catalog.filter fun r => CharClass.any ∉ r.pattern.classes := rfl

/-- These are the rules of the catalog that read no character whatever it is. -/
theorem mem_boundedRules_iff :
    r ∈ boundedRules ↔ r ∈ catalog ∧ CharClass.any ∉ r.pattern.classes := by
  rw [boundedRules_eq_filter, List.mem_filter, decide_eq_true_iff]

lemma isUnambiguous_or (h : r ∈ boundedRules) :
    r.pattern.isUnambiguous = true ∨ r = outerJoin := by
  revert r
  decide +kernel

/-- One arm begins with `LEFT`, the other with `RIGHT`. -/
lemma unambiguous_outerJoin : Unambiguous t outerJoin.pattern :=
  (unambiguous_of_isUnambiguous (by decide)).alt (unambiguous_of_isUnambiguous (by decide))
    (by decide)

theorem unambiguous_pattern (h : r ∈ boundedRules) : Unambiguous t r.pattern := by
  rcases isUnambiguous_or h with hu | rfl
  · exact unambiguous_of_isUnambiguous hu
  · exact unambiguous_outerJoin

/-- Behind the column they want `LIKE` or `NOT`, `=`, and `<>`. -/
lemma excludes_of_comparison : ∀ r ∈ comparisonRules, ∀ r' ∈ comparisonRules, r ≠ r' →
    r.pattern.excludes r'.pattern = true := by
  decide +kernel

/-- **The rules without gaps leave no choice.**  At every offset of every text such a rule has at
most one match, so a search that prefers long runs, one that prefers short runs and one for the
longest match all stop at the same end, and every scan that takes matches from left to right reports
the findings of the rule.  And no two of the rules on comparisons match at the same offset. -/
theorem boundedRules_unambiguous (text : String) :
    let t := text.toList
    (∀ r ∈ boundedRules,
      (∀ i j j', Matches t r.pattern i j → Matches t r.pattern i j' → j = j') ∧
      (∀ i ≤ t.length, ∀ j,
        ((trials t r.pattern i).head? = some j ↔ Matches t r.pattern i j) ∧
        ((lazyTrials t r.pattern i).head? = some j ↔ Matches t r.pattern i j) ∧
        (IsLongest t r.pattern i j ↔ Matches t r.pattern i j)) ∧
      ∀ l, Leftmost t r.pattern 0 l ↔ (r.findMatches text).map Finding.span = l) ∧
    ∀ i, ∀ r ∈ comparisonRules, ∀ r' ∈ comparisonRules, ∀ j j',
      Matches t r.pattern i j → Matches t r'.pattern i j' → r = r' := by
  intro t
  constructor
  · intro r hr
    have hu : Unambiguous t r.pattern := unambiguous_pattern hr
    have hcatalog : r ∈ catalog := (mem_boundedRules_iff.mp hr).1
    refine ⟨hu, ?_, ?_⟩
    · intro i hi j
      exact ⟨hu.head?_trials_iff hi, hu.head?_lazyTrials_iff hi, hu.isLongest_iff⟩
    · intro l
      rw [map_span_findMatches]
      exact hu.leftmost_iff (greedy_pattern hcatalog) (consumes_pattern hcatalog)
  · intro i r hr r' hr' j j' hm hm'
    by_contra hne
    exact hm.not_of_excludes (excludes_of_comparison r hr r' hr' hne) hm'

/-- A column named `NOT`, with a `NOT` behind it: the first cannot be taken for the second. -/
theorem unambiguous_column_not :
    let text := "WHERE not NOT  like '%a'"
    let t := text.toList
    likeLeadingWildcard ∈ boundedRules ∧ likeLeadingWildcard ∈ comparisonRules ∧
      Matches t likeLeadingWildcard.pattern 0 22 ∧
      (∀ j, Matches t likeLeadingWildcard.pattern 0 j → j = 22) ∧
      (trials t likeLeadingWildcard.pattern 0).head? = some 22 ∧
      (lazyTrials t likeLeadingWildcard.pattern 0).head? = some 22 ∧
      IsLongest t likeLeadingWildcard.pattern 0 22 ∧
      Leftmost t likeLeadingWildcard.pattern 0 [⟨0, 22⟩] ∧
      ∀ r ∈ comparisonRules, ∀ j, Matches t r.pattern 0 j → r = likeLeadingWildcard := by
  intro text t
  have hbounded : likeLeadingWildcard ∈ boundedRules := by decide
  have hcomparison : likeLeadingWildcard ∈ comparisonRules := by decide
  have hm : Matches t likeLeadingWildcard.pattern 0 22 :=
    (mem_trials (Nat.zero_le _)).mp (by decide)
  obtain ⟨hrules, hexclusive⟩ := boundedRules_unambiguous text
  obtain ⟨hunique, hends, hscans⟩ := hrules likeLeadingWildcard hbounded
  obtain ⟨hgreedy, hlazy, hlong⟩ := hends 0 (Nat.zero_le _) 22
  refine ⟨hbounded, hcomparison, hm, fun j hj => hunique 0 j 22 hj hm, hgreedy.mpr hm, hlazy.mpr hm,
    hlong.mpr hm, (hscans _).mpr (by decide), ?_⟩
  intro r hr j hj
  exact hexclusive 0 r hr likeLeadingWildcard hcomparison j 22 hj hm

end Rule

end QueryLint
