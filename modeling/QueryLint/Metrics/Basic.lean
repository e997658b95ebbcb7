import QueryLint.Metrics.Histogram
import QueryLint.Table

/-!
# Metrics

What the program counts about its own work, in two ways: flat totals with the average duration of
recent analyses, for the health check, and series by label, for the monitoring system.
-/

namespace QueryLint

/-- The flat totals. -/
structure Totals where
  documentsAnalyzed : Nat := 0
  summariesGenerated : Nat := 0
  findingsReported : Nat := 0
  documentsSkipped : Nat := 0
  errorsOccurred : Nat := 0
deriving DecidableEq, Repr

/-- A counter for each value of a label, in order of first use. -/
abbrev Series := Table String Nat

namespace Series

/-- Counts one more for a label. -/
def bump (s : Series) (label : String) : Series :=
  s.adjust label 0 (· + 1)

/-- The counter of a label. -/
def count (s : Series) (label : String) : Nat :=
  (s.get? label).getD 0

/-- The sum over all labels. -/
def total (s : Series) : Nat :=
  s.values.foldr (· + ·) 0

theorem count_bump (s : Series) (label label' : String) :
    (s.bump label).count label' = s.count label' + if label' = label then 1 else 0 := by
  unfold bump count
  rw [Table.get?_adjust]
  by_cases h : label' = label <;> simp [h]

end Series

/-- The mode in which only messages are reported; every other mode counts as detailed. -/
def summaryMode : String := "summary"

/-- The mode in which findings are reported. -/
def detailedMode : String := "detailed"

/-- All metrics. -/
structure Metrics where
  totals : Totals := {}
  /-- The durations of the latest analyses, oldest first. -/
  window : List Float := []
  /-- The average over the window. -/
  averageTime : Float := 0.0
  analyses : Series := .empty
  findings : Series := .empty
  skipped : Nat := 0
  errors : Series := .empty
  latency : Table String Histogram := .empty

namespace Metrics

/-- How many durations the average covers. -/
def windowSize : Nat := 100

/-- Adds a duration and drops the oldest one if the window is too long. -/
def slide (window : List Float) (duration : Float) : List Float :=
  let longer := window ++ [duration]
  if windowSize < longer.length then longer.drop 1 else longer

/-- The mean of a list, summed from left to right. -/
def mean (durations : List Float) : Float :=
  durations.foldl (· + ·) 0.0 / Float.ofNat durations.length

/-- The totals after an analysis that reported some rules. -/
def countAnalysis (t : Totals) (mode : String) (hits : Nat) : Totals :=
  let t := if mode = summaryMode then { t with summariesGenerated := t.summariesGenerated + 1 }
    else { t with documentsAnalyzed := t.documentsAnalyzed + 1 }
  { t with findingsReported := t.findingsReported + hits }

/-- Records one evaluation of the catalog and the names of the rules that fired. -/
def recordAnalysis (m : Metrics) (duration : Float) (mode : String) (hits : List String) :
    Metrics :=
  let window := slide m.window duration
  { m with
    totals := countAnalysis m.totals mode hits.length
    window := window
    averageTime := mean window
    analyses := m.analyses.bump mode
    latency := m.latency.adjust mode .empty fun h => h.observe duration
    findings := hits.foldl Series.bump m.findings }

/-- Records a document that is not analyzed because it is not SQL. -/
def recordSkip (m : Metrics) : Metrics :=
  { m with
    totals := { m.totals with documentsSkipped := m.totals.documentsSkipped + 1 }
    skipped := m.skipped + 1 }

/-- The label of an error that has no other. -/
def genericError : String := "generic"

/-- Records an error. -/
def recordError (m : Metrics) (label : String) : Metrics :=
  { m with
    totals := { m.totals with errorsOccurred := m.totals.errorsOccurred + 1 }
    errors := m.errors.bump label }

/-- Something to be recorded. -/
inductive Entry where
  | analysis (duration : Float) (mode : String) (hits : List String)
  | skip
  | error (label : String)

/-- Records an entry. -/
def record (m : Metrics) : Entry → Metrics
  | .analysis duration mode hits => m.recordAnalysis duration mode hits
  | .skip => m.recordSkip
  | .error label => m.recordError label

/-- Records entries one after another. -/
def recordAll (m : Metrics) (entries : List Entry) : Metrics :=
  entries.foldl record m

@[simp]
theorem recordAll_nil (m : Metrics) : m.recordAll [] = m := rfl

@[simp]
theorem recordAll_cons (m : Metrics) (e : Entry) (entries : List Entry) :
    m.recordAll (e :: entries) = (m.record e).recordAll entries := rfl

end Metrics

end QueryLint
