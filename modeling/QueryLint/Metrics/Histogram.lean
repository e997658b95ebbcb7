/-!
# Latency histograms

How often a duration fell into each of a fixed row of intervals.  A duration is counted in the first
interval whose upper bound reaches it, and in the last, unbounded one if none does; a duration that
is no number is not counted.
-/

namespace QueryLint

/-- The finite upper bounds of the intervals, in seconds, with the texts that name them. -/
def latencyBounds : List (String × Float) :=
  [("0.005", 0.005), ("0.01", 0.01), ("0.025", 0.025), ("0.05", 0.05), ("0.075", 0.075),
    ("0.1", 0.1), ("0.25", 0.25), ("0.5", 0.5), ("0.75", 0.75), ("1.0", 1.0), ("2.5", 2.5),
    ("5.0", 5.0), ("7.5", 7.5), ("10.0", 10.0)]

/-- The names of all upper bounds; the last interval has none. -/
def latencyLabels : List String :=
  latencyBounds.map Prod.fst ++ ["+Inf"]

/-- Counts by interval, and the sum of what was observed. -/
structure Histogram where
  counts : List Nat
  sum : Float
deriving Repr

namespace Histogram

/-- Nothing observed. -/
def empty : Histogram :=
  ⟨List.replicate latencyLabels.length 0, 0.0⟩

/-- The number of the interval that a duration falls into. -/
def interval (duration : Float) : Nat :=
  latencyBounds.findIdx fun b => duration ≤ b.2

/-- Counts a duration. -/
def observe (h : Histogram) (duration : Float) : Histogram where
  counts := if duration.isNaN then h.counts else h.counts.modify (interval duration) (· + 1)
  sum := h.sum + duration

/-- Running totals of a list, on top of a number. -/
def runningTotals (start : Nat) : List Nat → List Nat
  | [] => []
  | n :: rest => (start + n) :: runningTotals (start + n) rest

/-- For each upper bound the number of durations that it reaches. -/
def cumulative (h : Histogram) : List Nat :=
  runningTotals 0 h.counts

/-- Number of durations. -/
def count (h : Histogram) : Nat :=
  h.counts.foldr (· + ·) 0

theorem interval_lt (duration : Float) : interval duration < latencyLabels.length := by
  have h : interval duration ≤ latencyBounds.length := List.findIdx_le_length
  have hl : latencyLabels.length = latencyBounds.length + 1 := by simp [latencyLabels]
  omega

theorem length_counts_observe (h : Histogram) (duration : Float) :
    (h.observe duration).counts.length = h.counts.length := by
  unfold observe
  split <;> simp

@[simp]
theorem count_empty : empty.count = 0 := rfl

/-- Adding one to one entry adds one to the sum. -/
theorem sum_modify_succ {l : List Nat} {i : Nat} (h : i < l.length) :
    (l.modify i (· + 1)).foldr (· + ·) 0 = l.foldr (· + ·) 0 + 1 := by
  induction l generalizing i with
  | nil => simp at h
  | cons n l ih =>
    cases i with
    | zero =>
      simp only [List.modify_zero_cons, List.foldr_cons]
      omega
    | succ i =>
      have hi : i < l.length := by simpa using h
      simp only [List.modify_succ_cons, List.foldr_cons, ih hi]
      omega

theorem count_observe {h : Histogram} {duration : Float}
    (hl : h.counts.length = latencyLabels.length) (hd : duration.isNaN = false) :
    (h.observe duration).count = h.count + 1 := by
  have hi : interval duration < h.counts.length := hl ▸ interval_lt duration
  have hn : ¬ duration.isNaN = true := hd ▸ Bool.false_ne_true
  rw [count, count, ← sum_modify_succ hi, observe, if_neg hn]

end Histogram

end QueryLint
