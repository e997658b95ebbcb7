import Mathlib.Data.List.Basic
import QueryLint.Metrics.Basic

/-!
# The two ways of counting agree

The flat totals and the labelled series of the metrics are kept side by side, one for the health
check and one for the monitoring system, and they differ in what they tell apart: one total for all
detailed analyses, but a counter for every mode; one total of findings, but a counter for every
rule.  `Consistent` says how they hang together; recording keeps it (`Consistent.record`), so it
holds after every sequence of entries (`Consistent.recordAll`).

* `Series.total_erase`, `Series.total_bump`, `Series.total_foldl_bump`: sums over all labels;
* `Histogram.pairwise_runningTotals`, `Histogram.getLast?_runningTotals`: cumulative counts grow
  with the bound and end with the number of all durations.
-/

namespace QueryLint

/-! ### Sums over the labels of a series -/

namespace Table

variable {κ α : Type}

lemma eq_of_entries {t t' : Table κ α} (h : t.entries = t'.entries) : t = t' := by
  cases t
  cases t'
  cases h
  rfl

lemma erase_insert [DecidableEq κ] (t : Table κ α) (k : κ) (a : α) :
    (t.insert k a).erase k = t.erase k := by
  apply eq_of_entries
  by_cases h : k ∈ t.entries.map Prod.fst
  · have hcomp : ((fun e : κ × α => decide (e.1 ≠ k)) ∘ fun e => if e.1 = k then (k, a) else e)
        = fun e => decide (e.1 ≠ k) := by
      funext e
      by_cases he : e.1 = k <;> simp [he]
    rw [insert, dif_pos h]
    show (t.entries.map _).filter (fun e => decide (e.1 ≠ k)) = (t.erase k).entries
    rw [List.filter_map, hcomp]
    refine (List.map_congr_left fun e he => ?_).trans (List.map_id _)
    have hne : e.1 ≠ k := by simpa using (List.mem_filter.mp he).2
    simp [hne]
  · rw [insert, dif_neg h]
    show (t.entries ++ [(k, a)]).filter (fun e => decide (e.1 ≠ k)) = (t.erase k).entries
    rw [List.filter_append, List.filter_cons_of_neg (by simp), List.filter_nil, List.append_nil]
    rfl

end Table

namespace Series

variable {s : Series} {label : String}

/-- Summing without one label: the keys are distinct, so one summand is missing. -/
lemma foldr_filter_ne {l : List (String × Nat)} (hl : (l.map Prod.fst).Nodup) (label : String) :
    ((l.filter fun e => e.1 ≠ label).map Prod.snd).foldr (· + ·) 0
        + ((l.find? fun e => e.1 = label).map Prod.snd).getD 0
      = (l.map Prod.snd).foldr (· + ·) 0 := by
  induction l with
  | nil => rfl
  | cons e l ih =>
    obtain ⟨hnotMem, hnodup⟩ := List.nodup_cons.mp hl
    by_cases he : e.1 = label
    · have hrest : l.filter (fun e => e.1 ≠ label) = l := by
        rw [List.filter_eq_self]
        intro e' he'
        have hne : e'.1 ≠ label := fun heq =>
          hnotMem (he.trans heq.symm ▸ List.mem_map_of_mem he')
        simpa using hne
      rw [List.filter_cons_of_neg (by simpa using he), hrest,
        List.find?_cons_of_pos (by simpa using he)]
      simp only [Option.map_some, Option.getD_some, List.map_cons, List.foldr_cons]
      omega
    · have ih' := ih hnodup
      rw [List.filter_cons_of_pos (by simpa using he), List.find?_cons_of_neg (by simpa using he)]
      simp only [List.map_cons, List.foldr_cons]
      omega

theorem total_erase (s : Series) (label : String) :
    total (s.erase label) + s.count label = s.total :=
  foldr_filter_ne s.nodup label

theorem total_bump (s : Series) (label : String) : (s.bump label).total = s.total + 1 := by
  have hrest : (s.bump label).erase label = s.erase label := Table.erase_insert _ _ _
  have hbumped := total_erase (s.bump label) label
  have hbefore := total_erase s label
  have hcount := count_bump s label label
  rw [hrest] at hbumped
  rw [if_pos rfl] at hcount
  omega

theorem total_foldl_bump (s : Series) (labels : List String) :
    (labels.foldl bump s).total = s.total + labels.length := by
  induction labels generalizing s with
  | nil => rfl
  | cons label labels ih =>
    rw [List.foldl_cons, ih, total_bump, List.length_cons]
    omega

theorem count_foldl_bump (s : Series) (labels : List String) (label : String) :
    (labels.foldl bump s).count label = s.count label + labels.count label := by
  induction labels generalizing s with
  | nil => rfl
  | cons label' labels ih =>
    rw [List.foldl_cons, ih, count_bump, List.count_cons]
    by_cases h : label = label'
    · subst h
      simp
      omega
    · have h' : label' ≠ label := fun heq => h heq.symm
      simp [h, h']

end Series

/-! ### Cumulative counts -/

namespace Histogram

/-- What is shown of a histogram: for each bound the number of durations that it reaches. -/
def buckets (h : Histogram) : List (String × Nat) :=
  latencyLabels.zip h.cumulative

lemma length_runningTotals (start : Nat) (l : List Nat) :
    (runningTotals start l).length = l.length := by
  induction l generalizing start with
  | nil => rfl
  | cons n l ih => rw [runningTotals, List.length_cons, ih, List.length_cons]

lemma le_of_mem_runningTotals {start m : Nat} {l : List Nat} (h : m ∈ runningTotals start l) :
    start ≤ m := by
  induction l generalizing start with
  | nil => cases h
  | cons n l ih =>
    rw [runningTotals] at h
    rcases List.mem_cons.mp h with rfl | h
    · omega
    · have := ih h
      omega

theorem pairwise_runningTotals (start : Nat) (l : List Nat) :
    (runningTotals start l).Pairwise (· ≤ ·) := by
  induction l generalizing start with
  | nil => exact List.Pairwise.nil
  | cons n l ih => exact List.pairwise_cons.mpr ⟨fun m => le_of_mem_runningTotals, ih _⟩

theorem getLast?_runningTotals (start : Nat) {l : List Nat} (h : l ≠ []) :
    (runningTotals start l).getLast? = some (start + l.foldr (· + ·) 0) := by
  induction l generalizing start with
  | nil => exact absurd rfl h
  | cons n l ih =>
    rw [runningTotals, List.getLast?_cons]
    cases l with
    | nil => rfl
    | cons n' l =>
      rw [ih (start + n) (by simp), List.foldr_cons, Nat.add_assoc]
      rfl

lemma length_cumulative (h : Histogram) : h.cumulative.length = h.counts.length :=
  length_runningTotals 0 h.counts

/-- The bounds are listed in increasing order. -/
theorem pairwise_latencyBounds : (latencyBounds.map Prod.snd).Pairwise (· < ·) := by
  decide +kernel

theorem pairwise_buckets {h : Histogram} (hl : h.counts.length = latencyLabels.length) :
    h.buckets.Pairwise fun a b => a.2 ≤ b.2 := by
  have hvalues : h.buckets.map Prod.snd = h.cumulative :=
    List.map_snd_zip (Nat.le_of_eq (by rw [length_cumulative, hl]))
  rw [← List.pairwise_map, hvalues]
  exact pairwise_runningTotals 0 h.counts

theorem getLast?_buckets {h : Histogram} (hl : h.counts.length = latencyLabels.length) :
    h.buckets.getLast? = some ("+Inf", h.count) := by
  have hne : h.counts ≠ [] := by
    intro hnil
    rw [hnil] at hl
    cases hl
  have hlast : h.cumulative.getLast? = some h.count := by
    rw [cumulative, getLast?_runningTotals 0 hne, Nat.zero_add, count]
  obtain ⟨before, hbefore⟩ := List.getLast?_eq_some_iff.mp hlast
  have hlen : (latencyBounds.map Prod.fst).length = before.length := by
    have hcumulative := length_cumulative h
    rw [hl, hbefore, latencyLabels] at hcumulative
    simpa using hcumulative.symm
  rw [buckets, hbefore, latencyLabels, List.zip_append hlen]
  simp

end Histogram

/-! ### Totals and series -/

namespace Metrics

/-- The histogram of a mode; nothing is observed before the first analysis. -/
def histogramOf (m : Metrics) (mode : String) : Histogram :=
  (m.latency.get? mode).getD .empty

/-- The flat totals and the labelled series count the same. -/
structure Consistent (m : Metrics) : Prop where
  summaries : m.totals.summariesGenerated = m.analyses.count summaryMode
  analyses : m.totals.documentsAnalyzed + m.totals.summariesGenerated = m.analyses.total
  findings : m.totals.findingsReported = m.findings.total
  skipped : m.totals.documentsSkipped = m.skipped
  errors : m.totals.errorsOccurred = m.errors.total
  intervals : ∀ mode, (m.histogramOf mode).counts.length = latencyLabels.length
  observed : ∀ mode, (m.histogramOf mode).count = m.analyses.count mode

variable {m : Metrics}

lemma histogramOf_recordAnalysis (duration : Float) (mode mode' : String) (hits : List String) :
    (m.recordAnalysis duration mode hits).histogramOf mode'
      = if mode' = mode then (m.histogramOf mode).observe duration else m.histogramOf mode' := by
  simp only [histogramOf, recordAnalysis, Table.get?_adjust]
  split <;> rfl

lemma totals_recordAnalysis (duration : Float) (mode : String) (hits : List String) :
    (m.recordAnalysis duration mode hits).totals
      = { m.totals with
          documentsAnalyzed := m.totals.documentsAnalyzed + if mode = summaryMode then 0 else 1
          summariesGenerated := m.totals.summariesGenerated + if mode = summaryMode then 1 else 0
          findingsReported := m.totals.findingsReported + hits.length } := by
  simp only [recordAnalysis, countAnalysis]
  split <;> rfl

theorem Consistent.recordAnalysis (h : Consistent m) {duration : Float}
    (hd : duration.isNaN = false) (mode : String) (hits : List String) :
    Consistent (m.recordAnalysis duration mode hits) where
  summaries := by
    have hcount : (m.recordAnalysis duration mode hits).analyses.count summaryMode
        = m.analyses.count summaryMode + if summaryMode = mode then 1 else 0 :=
      Series.count_bump _ _ _
    have hbefore := h.summaries
    rw [totals_recordAnalysis, hcount]
    by_cases hmode : mode = summaryMode
    · simp only [hmode, if_true]
      omega
    · have hmode' : summaryMode ≠ mode := fun heq => hmode heq.symm
      simp only [hmode, hmode', if_false]
      omega
  analyses := by
    have htotal : (m.recordAnalysis duration mode hits).analyses.total = m.analyses.total + 1 :=
      Series.total_bump _ _
    have hbefore := h.analyses
    rw [totals_recordAnalysis, htotal]
    by_cases hmode : mode = summaryMode <;> simp only [hmode, if_true, if_false] <;> omega
  findings := by
    have htotal := Series.total_foldl_bump m.findings hits
    rw [totals_recordAnalysis]
    exact (congrArg (· + _) h.findings).trans htotal.symm
  skipped := by
    rw [totals_recordAnalysis]
    exact h.skipped
  errors := by
    rw [totals_recordAnalysis]
    exact h.errors
  intervals mode' := by
    rw [histogramOf_recordAnalysis]
    split
    · rw [Histogram.length_counts_observe, h.intervals]
    · exact h.intervals mode'
  observed mode' := by
    have hcount : (m.recordAnalysis duration mode hits).analyses.count mode'
        = m.analyses.count mode' + if mode' = mode then 1 else 0 :=
      Series.count_bump _ _ _
    rw [histogramOf_recordAnalysis, hcount]
    split
    next heq => rw [Histogram.count_observe (h.intervals mode) hd, h.observed, heq]
    next => exact h.observed mode'

theorem Consistent.recordSkip (h : Consistent m) : Consistent m.recordSkip :=
  { h with skipped := congrArg (· + 1) h.skipped }

theorem Consistent.recordError (h : Consistent m) (label : String) :
    Consistent (m.recordError label) :=
  { h with errors := (congrArg (· + 1) h.errors).trans (Series.total_bump m.errors label).symm }

theorem consistent_zero : Consistent {} where
  summaries := rfl
  analyses := rfl
  findings := rfl
  skipped := rfl
  errors := rfl
  intervals _ := rfl
  observed _ := rfl

/-- Whether the duration of an entry, if it has one, is a number. -/
def Entry.isTimed : Entry → Bool
  | analysis duration _ _ => !duration.isNaN
  | skip | error _ => true

/-- One entry keeps both ways of counting together. -/
theorem Consistent.record (h : Consistent m) {e : Entry} (he : e.isTimed = true) :
    Consistent (m.record e) := by
  cases e with
  | analysis duration mode hits =>
    exact h.recordAnalysis (by simpa [Entry.isTimed] using he) mode hits
  | skip => exact h.recordSkip
  | error label => exact h.recordError label

/-- A sequence of entries keeps both ways of counting together. -/
theorem Consistent.recordAll (h : Consistent m) {entries : List Entry}
    (hentries : ∀ e ∈ entries, e.isTimed = true) : Consistent (m.recordAll entries) := by
  induction entries generalizing m with
  | nil => exact h
  | cons e entries ih =>
    rw [recordAll_cons]
    exact ih (h.record (hentries e List.mem_cons_self)) fun e' he' =>
      hentries e' (List.mem_cons_of_mem e he')

/-- **Totals and series never drift apart.**  Whatever is recorded, under whatever labels: the total
of summaries is the counter of their mode and the total of detailed analyses the sum over all other
modes; findings and errors are the sums over their labels; and the histogram of each mode has counted
every analysis, in buckets that grow with their bound up to the last one, which holds them all. -/
theorem totals_agree_with_series (entries : List Entry)
    (hentries : ∀ e ∈ entries, e.isTimed = true) :
    let m := recordAll {} entries
    m.totals.summariesGenerated = m.analyses.count summaryMode ∧
    m.totals.documentsAnalyzed = Series.total (m.analyses.erase summaryMode) ∧
    m.totals.findingsReported = m.findings.total ∧
    m.totals.documentsSkipped = m.skipped ∧
    m.totals.errorsOccurred = m.errors.total ∧
    (latencyBounds.map Prod.snd).Pairwise (· < ·) ∧
    ∀ mode,
      (m.histogramOf mode).count = m.analyses.count mode ∧
      ((m.histogramOf mode).buckets.Pairwise fun a b => a.2 ≤ b.2) ∧
      (m.histogramOf mode).buckets.getLast? = some ("+Inf", (m.histogramOf mode).count) := by
  intro m
  have h : Consistent m := consistent_zero.recordAll hentries
  have hdetailed : m.totals.documentsAnalyzed = Series.total (m.analyses.erase summaryMode) := by
    have hsplit := Series.total_erase m.analyses summaryMode
    have hsummaries := h.summaries
    have hanalyses := h.analyses
    omega
  refine ⟨h.summaries, hdetailed, h.findings, h.skipped, h.errors,
    Histogram.pairwise_latencyBounds, fun mode => ⟨h.observed mode, ?_, ?_⟩⟩
  · exact Histogram.pairwise_buckets (h.intervals mode)
  · exact Histogram.getLast?_buckets (h.intervals mode)

/-- One rule fired twice in a call, and two modes that both count as detailed. -/
theorem totals_agree_with_mixed_modes :
    let entries : List Entry := [.analysis 0.3 "summary" ["DISTINCT", "SELECT_STAR"], .skip,
      .analysis 12.5 "detailed" ["DISTINCT", "DISTINCT"], .error "analyze", .analysis 0.005 "" []]
    let m := recordAll {} entries
    (∀ e ∈ entries, e.isTimed = true) ∧
    m.totals = ⟨2, 1, 4, 1, 1⟩ ∧
    m.totals.documentsAnalyzed = Series.total (m.analyses.erase summaryMode) ∧
    m.totals.findingsReported = m.findings.total ∧
    (m.histogramOf "detailed").buckets.getLast? = some ("+Inf", 1) := by
  intro entries m
  have hentries : ∀ e ∈ entries, e.isTimed = true := by decide +kernel
  obtain ⟨-, hdetailed, hfindings, -, -, -, hmodes⟩ := totals_agree_with_series entries hentries
  refine ⟨hentries, rfl, hdetailed, hfindings, ?_⟩
  rw [(hmodes "detailed").2.2]
  decide +kernel

end Metrics

end QueryLint
