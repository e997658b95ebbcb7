import QueryLint.Proofs.Catalog.Findings
import QueryLint.Proofs.Catalog.Summary
import QueryLint.Proofs.Pattern.Embedding

/-!
# Findings in context

What becomes of the findings of a text when the text is part of a larger one.

* `surroundings_hide_nothing`: a problem is still seen, whatever stands around it, as long as no
  word character touches it;
* `findMatches_statements`: nine of the rules look at one statement of a script at a time, so their
  findings in a script are those in its pieces, moved to where each piece stands.  The other six
  have a part that reads semicolons as well.
-/

namespace QueryLint

open Pattern

/-! ### Surroundings -/

lemma Rule.findMatches_eq_nil_iff {r : Rule} {text : String} :
    r.findMatches text = [] ↔ ∀ i j, ¬ Matches text.toList r.pattern i j := by
  rw [findMatches, List.map_eq_nil_iff, spans_eq_nil_iff]

/-- A rule that fires on a text fires on it in every context that keeps word characters away. -/
theorem Rule.findMatches_ne_nil_of_surrounded {r : Rule} {before text behind : String}
    (hbefore : endsApart before.toList = true) (hbehind : beginsApart behind.toList = true)
    (h : r.findMatches text ≠ []) : r.findMatches (before ++ text ++ behind) ≠ [] := by
  rw [Ne, findMatches_eq_nil_iff] at h ⊢
  intro hnone
  apply h
  intro i j hm
  have hlist : (before ++ text ++ behind).toList
      = before.toList ++ (text.toList ++ behind.toList) := by
    simp
  have hembedded := embedded_append (t := text.toList) hbefore hbehind
  rw [← hlist] at hembedded
  exact hnone _ _ ((hembedded.matches_iff hm.le_length).mpr hm)

/-- **Surrounding text never hides a problem.**  Put text before and behind it, with no word
character where it begins and ends: whatever the summary said it still says, and every rule with a
finding has one. -/
theorem surroundings_hide_nothing (text : String) {before behind : String}
    (hbefore : endsApart before.toList = true) (hbehind : beginsApart behind.toList = true) :
    (∀ message ∈ summarize text, message ∈ summarize (before ++ text ++ behind)) ∧
    ∀ f ∈ analyze text, ∃ g ∈ analyze (before ++ text ++ behind),
      g.code = f.code ∧ g.rule = f.rule ∧ g.message = f.message := by
  have hfires : ∀ r : Rule, r.findMatches text ≠ [] →
      r.findMatches (before ++ text ++ behind) ≠ [] :=
    fun r => Rule.findMatches_ne_nil_of_surrounded hbefore hbehind
  constructor
  · intro message hmessage
    obtain ⟨r, hr, rfl⟩ := List.mem_map.mp hmessage
    obtain ⟨hcatalog, hon⟩ := List.mem_filter.mp hr
    refine List.mem_map_of_mem (List.mem_filter.mpr ⟨hcatalog, ?_⟩)
    rw [r.firesOn_eq, Bool.not_eq_true', List.isEmpty_eq_false_iff] at hon ⊢
    exact hfires r hon
  · intro f hf
    obtain ⟨r, hr, hf⟩ := List.mem_flatMap.mp hf
    obtain ⟨g, hg⟩ := List.exists_mem_of_ne_nil _ (hfires r (List.ne_nil_of_mem hf))
    refine ⟨g, List.mem_flatMap.mpr ⟨r, hr, hg⟩, ?_⟩
    obtain ⟨s, -, rfl⟩ := Rule.mem_findMatches_iff.mp hf
    obtain ⟨s', -, rfl⟩ := Rule.mem_findMatches_iff.mp hg
    exact ⟨rfl, rfl, rfl⟩

/-- The larger text has a longer match for the rule, and none that begins or ends where the smaller
one had it. -/
theorem surroundings_keep_order_by_limit :
    let before := "/* ORDER BY */ "
    let text := "order by a limit 5"
    let behind := "; -- LIMIT"
    endsApart before.toList = true ∧ beginsApart behind.toList = true ∧
      Rule.orderByLimit.message ∈ summarize (before ++ text ++ behind) ∧
      ∃ g ∈ analyze (before ++ text ++ behind), g.code = "SQ007" := by
  intro before text behind
  have hbefore : endsApart before.toList = true := by decide
  have hbehind : beginsApart behind.toList = true := by decide
  obtain ⟨hsummary, hfindings⟩ := surroundings_hide_nothing text hbefore hbehind
  have hcatalog : Rule.orderByLimit ∈ catalog := by decide
  have hmessage : Rule.orderByLimit.message ∈ summarize text :=
    List.mem_map_of_mem (List.mem_filter.mpr ⟨hcatalog, by decide +kernel⟩)
  have hfinding : Rule.orderByLimit.finding ⟨0, 16⟩ ∈ analyze text :=
    List.mem_flatMap.mpr ⟨_, hcatalog, by decide +kernel⟩
  obtain ⟨g, hg, hcode, -⟩ := hfindings _ hfinding
  exact ⟨hbefore, hbehind, hsummary _ hmessage, g, hg, hcode⟩

/-! ### Statements -/

/-- The rules that look at one statement at a time. -/
def statementRules : List Rule :=
  [.selectStar, .likeLeadingWildcard, .outerJoin, .equalsNull, .notEqualsNull, .orderByRand,
    .derivedTable, .distinct, .tempTable]

/-- The finding in a text that has grown by some characters in front. -/
def Finding.shift (n : Nat) (f : Finding) : Finding :=
  { f with startOffset := f.startOffset + n }

/-- The pieces of a script between its semicolons. -/
def pieces (script : String) : List String :=
  (script.toList.splitOn ';').map String.ofList

namespace Rule

/-- The matches in each of some pieces of a script, placed in the script; the first piece begins at
the given offset, and one character stands between two pieces. -/
def findInPieces (r : Rule) : Nat → List String → List Finding
  | _, [] => []
  | offset, piece :: rest =>
    (r.findMatches piece).map (Finding.shift offset) ++
      r.findInPieces (offset + piece.length + 1) rest

variable {r : Rule}

lemma mem_catalog_of_statementRules (h : r ∈ statementRules) : r ∈ catalog := by
  simp only [statementRules, List.mem_cons, List.not_mem_nil, or_false] at h
  rcases h with rfl | rfl | rfl | rfl | rfl | rfl | rfl | rfl | rfl <;> simp [catalog]

lemma avoids_semicolon (h : r ∈ statementRules) : r.pattern.avoids ';' = true := by
  revert r
  decide +kernel

example : (catalog.filter fun r => !r.pattern.avoids ';').map code
    = ["SQ003", "SQ007", "SQ009", "SQ010", "SQ012", "SQ014"] := by
  decide +kernel

lemma finding_move (r : Rule) (n : Nat) (s : Span) :
    r.finding (s.move (n + ·)) = (r.finding s).shift n := by
  show (⟨r.code, r.name, r.message, n + s.start, n + s.stop - (n + s.start)⟩ : Finding) = _
  rw [Nat.add_sub_add_left, Nat.add_comm]
  rfl

/-- **Two statements.**  No match reaches over a semicolon. -/
theorem findMatches_append_semicolon (h : r ∈ statementRules) (a b : String) :
    r.findMatches (a ++ ";" ++ b)
      = r.findMatches a ++ (r.findMatches b).map (Finding.shift (a.length + 1)) := by
  have hcatalog := mem_catalog_of_statementRules h
  have hspans := spans_append_separator (fun _ => greedy_pattern hcatalog)
    (consumes_pattern hcatalog) (avoids_semicolon h) (by decide) a.toList b.toList
  have hlist : (a ++ ";" ++ b).toList = a.toList ++ ';' :: b.toList := by simp
  rw [findMatches, hlist, hspans, List.map_append, List.map_map, String.length_toList]
  congr 1
  rw [findMatches, List.map_map]
  apply List.map_congr_left
  intro s _
  exact r.finding_move (a.length + 1) s

lemma shift_shift (m n : Nat) (f : Finding) : (f.shift m).shift n = f.shift (n + m) := by
  simp only [Finding.shift, Finding.mk.injEq, true_and, and_true]
  omega

/-- Pieces joined by semicolons, from the offset where the first of them stands. -/
theorem findInPieces_eq (h : r ∈ statementRules) (offset : Nat) (p : List Char)
    (ps : List (List Char)) :
    r.findInPieces offset ((p :: ps).map String.ofList)
      = (r.findMatches (String.ofList ([';'].intercalate (p :: ps)))).map
          (Finding.shift offset) := by
  induction ps generalizing offset p with
  | nil => simp [findInPieces]
  | cons q ps ih =>
    have hjoin : String.ofList ([';'].intercalate (p :: q :: ps))
        = String.ofList p ++ ";" ++ String.ofList ([';'].intercalate (q :: ps)) := by
      rw [← String.toList_inj]
      simp [List.intercalate]
    rw [List.map_cons, findInPieces, ih, hjoin, findMatches_append_semicolon h, List.map_append,
      List.map_map]
    congr 1
    apply List.map_congr_left
    intro f _
    show f.shift _ = (f.shift _).shift offset
    rw [shift_shift, Nat.add_assoc]

end Rule

/-- **Statement locality.**  A rule that looks at one statement at a time finds in two texts joined
by a semicolon what it finds in each of them, and in a script what it finds in its pieces. -/
theorem findMatches_statements {r : Rule} (h : r ∈ statementRules) :
    (∀ a b : String, r.findMatches (a ++ ";" ++ b)
      = r.findMatches a ++ (r.findMatches b).map (Finding.shift (a.length + 1))) ∧
    ∀ script : String, r.findMatches script = r.findInPieces 0 (pieces script) := by
  refine ⟨r.findMatches_append_semicolon h, fun script => ?_⟩
  obtain ⟨p, ps, hps⟩ := List.exists_cons_of_ne_nil (List.splitOn_ne_nil ';' script.toList)
  have hjoin : [';'].intercalate (p :: ps) = script.toList := by
    rw [← hps, List.intercalate_splitOn]
  have hstay : Finding.shift 0 = id := rfl
  rw [pieces, hps, Rule.findInPieces_eq h, hjoin, String.ofList_toList, hstay, List.map_id]

theorem outer_joins_of_three_statements :
    let r := Rule.outerJoin
    r ∈ statementRules ∧
      r.findMatches ("a left join" ++ ";" ++ "join;RIGHT\nJOIN b")
        = r.findMatches "a left join" ++
          (r.findMatches "join;RIGHT\nJOIN b").map (Finding.shift 12) ∧
      r.findMatches "a left join;join;RIGHT\nJOIN b" = [r.finding ⟨2, 11⟩, r.finding ⟨17, 27⟩] := by
  intro r
  have hr : r ∈ statementRules := by decide
  obtain ⟨htwo, hscript⟩ := findMatches_statements hr
  refine ⟨hr, htwo _ _, ?_⟩
  rw [hscript]
  decide +kernel

end QueryLint
