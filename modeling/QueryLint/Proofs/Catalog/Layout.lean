import QueryLint.Proofs.Catalog.Matching
import QueryLint.Proofs.Catalog.Summary
import QueryLint.Proofs.Pattern.Thinning

/-!
# The layout of a text

How a text is laid out, with one space between two words or with line breaks and indentation, makes no
difference to the rules that fire, nor to how often each of them does.  Collapsing every run of
whitespace is a sequence of two kinds of small changes: a whitespace character becomes a space, or is
left out behind another one.  Each of them keeps the number of findings of every rule, and
`length_findMatches_collapse` follows by induction on the text.
-/

namespace QueryLint

open Pattern

/-- A text in which each run of whitespace has become one space; `inGap` tells whether the text comes
right behind whitespace. -/
def collapseFrom (inGap : Bool) : List Char → List Char
  | [] => []
  | c :: rest =>
    if isSpace c then
      if inGap then collapseFrom true rest else ' ' :: collapseFrom true rest
    else c :: collapseFrom false rest

/-- The text with every maximal run of whitespace replaced by one space. -/
def collapse (text : String) : String :=
  String.ofList (collapseFrom false text.toList)

namespace Rule

variable {r : Rule} {c d : Char}

/-! ### Small changes -/

lemma isSpaced_pattern (h : r ∈ catalog) : r.pattern.isSpaced = true := by
  revert r
  decide +kernel

lemma all_isBlind_classes (h : r ∈ catalog) : r.pattern.classes.all CharClass.isBlind = true := by
  revert r
  decide +kernel

lemma alike_of_isSpace (hr : r ∈ catalog) (hc : isSpace c = true) (hd : isSpace d = true) :
    Alike r.pattern.classes c d := by
  refine ⟨?_, fun s hs => ?_⟩
  · rw [CharClass.isWord_of_isSpace hc, CharClass.isWord_of_isSpace hd]
  · have hblind := List.all_eq_true.mp (all_isBlind_classes hr) s hs
    exact s.contains_eq_of_isBlind hblind hc hd

/-- One whitespace character is as good as another. -/
lemma length_spans_replace (hr : r ∈ catalog) (a b : List Char) (hc : isSpace c = true)
    (hd : isSpace d = true) :
    (r.pattern.spans (a ++ c :: b)).length = (r.pattern.spans (a ++ d :: b)).length := by
  have hsame : ∀ l : List Char, List.Forall₂ (Alike r.pattern.classes) l l :=
    fun l => List.forall₂_same.mpr fun c _ => alike_refl _ c
  have hcorrespond := correspondence_of_alike
    (List.rel_append (hsame a) (.cons (alike_of_isSpace hr hc hd) (hsame b)))
  rw [hcorrespond.spans_eq (fun _ => greedy_pattern hr) (consumes_pattern hr), List.length_map]

/-- A whitespace character behind another one can be left out. -/
lemma length_spans_thin (hr : r ∈ catalog) (a b : List Char) (hc : isSpace c = true)
    (hd : isSpace d = true) :
    (r.pattern.spans (a ++ c :: d :: b)).length = (r.pattern.spans (a ++ c :: b)).length := by
  have hcorrespond := (thinned_append a b hc hd).correspondence (isSpaced_pattern hr)
  rw [hcorrespond.spans_eq (fun _ => greedy_pattern hr) (consumes_pattern hr), List.length_map]

/-! ### Collapsing -/

/-- Collapsing the whitespace behind some part of a text. -/
theorem length_spans_collapseFrom (hr : r ∈ catalog) (text before : List Char) (inGap : Bool)
    (hgap : inGap = true → ∃ a c, before = a ++ [c] ∧ isSpace c = true) :
    (r.pattern.spans (before ++ text)).length
      = (r.pattern.spans (before ++ collapseFrom inGap text)).length := by
  induction text generalizing before inGap with
  | nil => rfl
  | cons d text ih =>
    rw [collapseFrom]
    split
    next hd =>
      split
      next hin =>
        obtain ⟨a, c, rfl, hc⟩ := hgap hin
        have hthin := length_spans_thin hr a text hc hd
        have hrest := ih (a ++ [c]) true fun _ => ⟨a, c, rfl, hc⟩
        rw [List.append_assoc, List.singleton_append] at hrest ⊢
        exact hthin.trans hrest
      next =>
        have hreplace := length_spans_replace hr before text hd (by decide : isSpace ' ' = true)
        have hrest := ih (before ++ [' ']) true fun _ => ⟨before, ' ', rfl, by decide⟩
        rw [List.append_assoc, List.append_assoc, List.singleton_append,
          List.singleton_append] at hrest
        exact hreplace.trans hrest
    next =>
      have hrest := ih (before ++ [d]) false fun hf => absurd hf Bool.false_ne_true
      rwa [List.append_assoc, List.append_assoc, List.singleton_append,
        List.singleton_append] at hrest

theorem length_findMatches_collapse (hr : r ∈ catalog) (text : String) :
    (r.findMatches (collapse text)).length = (r.findMatches text).length := by
  have h := length_spans_collapseFrom hr text.toList [] false fun hf => absurd hf Bool.false_ne_true
  rw [findMatches, findMatches, List.length_map, List.length_map, collapse, String.toList_ofList]
  exact h.symm

lemma map_code_findMatches (r : Rule) (text : String) :
    (r.findMatches text).map (·.code) = List.replicate (r.findMatches text).length r.code := by
  rw [List.eq_replicate_iff, List.length_map]
  refine ⟨rfl, fun code hcode => ?_⟩
  obtain ⟨f, hf, rfl⟩ := List.mem_map.mp hcode
  obtain ⟨s, -, rfl⟩ := List.mem_map.mp hf
  rfl

lemma firesOn_collapse (hr : r ∈ catalog) (text : String) :
    r.firesOn (collapse text) = r.firesOn text := by
  have hlength := length_findMatches_collapse hr text
  rw [firesOn_eq, firesOn_eq, Bool.eq_iff_iff]
  simp only [Bool.not_eq_true', List.isEmpty_eq_false_iff, ← List.length_pos_iff, hlength]

end Rule

/-- **Layout does not matter.**  Collapsing every run of whitespace to one space keeps the codes of
all findings, in order, and the summary. -/
theorem verdict_collapse (text : String) :
    (analyze (collapse text)).map (·.code) = (analyze text).map (·.code) ∧
      summarize (collapse text) = summarize text := by
  constructor
  · rw [analyze, analyze, List.map_flatMap, List.map_flatMap]
    refine List.flatMap_congr fun r hr => ?_
    rw [r.map_code_findMatches, r.map_code_findMatches, Rule.length_findMatches_collapse hr]
  · rw [summarize, summarize, firedRules, firedRules]
    refine congrArg (List.map Rule.message) (List.filter_congr fun r hr => ?_)
    exact Rule.firesOn_collapse hr text

example : collapse "SELECT\t\n *  FROM t\r\n" = "SELECT * FROM t " := by
  decide

end QueryLint
