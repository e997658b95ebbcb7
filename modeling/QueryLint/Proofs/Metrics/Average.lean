import Mathlib.Data.List.DropRight
import QueryLint.Metrics.Basic

/-!
# The average covers the latest analyses

A duration enters the window on one side, and as soon as there are too many of them the oldest one
leaves on the other (`slide_rtake`).  Hence the window is at all times the end of the list of all
durations, and the average, which is taken anew with every analysis, is the mean of that end:
`Tracks` says so, one entry keeps it (`Tracks.record`), and so does a sequence of entries
(`Tracks.recordAll`).  Nothing is used about sums and quotients of durations.
-/

namespace QueryLint

namespace Metrics

/-- The duration of an entry; only analyses have one. -/
def Entry.duration? : Entry → Option Float
  | analysis duration _ _ => some duration
  | skip | error _ => none

/-- The durations of all analyses, oldest first. -/
def durations (entries : List Entry) : List Float :=
  entries.filterMap Entry.duration?

/-! ### The window slides -/

section Slide

variable (ds : List Float) (d : Float)

lemma length_rtake_windowSize : (ds.rtake windowSize).length = min ds.length windowSize := by
  rw [List.rtake, List.length_drop]
  omega

/-- The end of a list slides along as the list grows. -/
theorem slide_rtake : slide (ds.rtake windowSize) d = (ds ++ [d]).rtake windowSize := by
  have hlonger : (ds.rtake windowSize ++ [d]).length = min ds.length windowSize + 1 := by
    rw [List.length_append, length_rtake_windowSize, List.length_singleton]
  simp only [slide]
  split
  next hlong =>
    have hfull : windowSize ≤ ds.length := by omega
    have hstart : ds.length - windowSize + 1 = (ds ++ [d]).length - windowSize := by
      rw [List.length_append, List.length_singleton]
      omega
    have hle : ds.length - windowSize + 1 ≤ ds.length := by
      have hsize : 1 ≤ windowSize := by decide
      omega
    calc (ds.rtake windowSize ++ [d]).drop 1
        = (ds.rtake windowSize).drop 1 ++ [d] := by
          rw [List.drop_append_of_le_length]
          rw [length_rtake_windowSize]
          omega
      _ = ds.drop (ds.length - windowSize + 1) ++ [d] := by rw [List.rtake, List.drop_drop]
      _ = (ds ++ [d]).rtake windowSize := by
          rw [← List.drop_append_of_le_length hle, hstart, List.rtake]
  next hshort =>
    have hfits : ds.length + 1 ≤ windowSize := by omega
    rw [List.rtake, List.rtake, Nat.sub_eq_zero_of_le (by omega),
      Nat.sub_eq_zero_of_le (by simpa using hfits), List.drop_zero, List.drop_zero]

end Slide

/-! ### What the metrics keep of the durations -/

/-- The window holds the latest of the durations, and the average is their mean. -/
structure Tracks (m : Metrics) (ds : List Float) : Prop where
  window : m.window = ds.rtake windowSize
  average : m.averageTime = if ds = [] then 0.0 else mean (ds.rtake windowSize)

variable {m : Metrics} {ds : List Float}

lemma tracks_zero : Tracks {} [] :=
  ⟨rfl, rfl⟩

theorem Tracks.recordAnalysis (h : Tracks m ds) (duration : Float) (mode : String)
    (hits : List String) : Tracks (m.recordAnalysis duration mode hits) (ds ++ [duration]) := by
  have hwindow : slide m.window duration = (ds ++ [duration]).rtake windowSize := by
    rw [h.window, slide_rtake]
  refine ⟨hwindow, ?_⟩
  rw [if_neg (by simp), ← hwindow]
  rfl

/-- One entry adds its duration, if it has one. -/
theorem Tracks.record (h : Tracks m ds) (e : Entry) :
    Tracks (m.record e) (ds ++ e.duration?.toList) := by
  cases e with
  | analysis duration mode hits => exact h.recordAnalysis duration mode hits
  | skip | error _ =>
    rw [Entry.duration?, Option.toList_none, List.append_nil]
    exact ⟨h.window, h.average⟩

/-- A sequence of entries adds the durations of its analyses. -/
theorem Tracks.recordAll (h : Tracks m ds) (entries : List Entry) :
    Tracks (m.recordAll entries) (ds ++ durations entries) := by
  induction entries generalizing m ds with
  | nil =>
    rw [durations, List.filterMap_nil, List.append_nil]
    exact h
  | cons e entries ih =>
    have hsplit : ds ++ durations (e :: entries)
        = ds ++ e.duration?.toList ++ durations entries := by
      rw [List.append_assoc, durations, List.filterMap_cons, durations]
      cases e.duration? <;> rfl
    rw [recordAll_cons, hsplit]
    exact ih (h.record e)

/-- **The average covers the last hundred analyses.**  Whatever has been recorded, the window holds
the durations of the latest analyses, oldest first, as many as there are up to a hundred.  The
average is zero before the first analysis and from then on their sum, taken from left to right, over
their number; the next analysis divides by one more, up to a hundred, and so never by zero.  What is
not an analysis changes neither. -/
theorem average_covers_last_hundred (entries : List Entry) :
    let m := recordAll {} entries
    let n := (durations entries).length
    m.window = (durations entries).rtake (min n 100) ∧
    m.window.length = min n 100 ∧
    m.averageTime = (if n = 0 then 0.0
      else m.window.foldl (· + ·) 0.0 / Float.ofNat (min n 100)) ∧
    (∀ duration, (slide m.window duration).length = min (n + 1) 100 ∧ 0 < min (n + 1) 100) ∧
    (m.recordSkip.window = m.window ∧ m.recordSkip.averageTime = m.averageTime) ∧
    ∀ label, (m.recordError label).window = m.window ∧
      (m.recordError label).averageTime = m.averageTime := by
  intro m n
  have h : Tracks m (durations entries) := tracks_zero.recordAll entries
  have hlength : m.window.length = min n 100 := by
    rw [h.window, length_rtake_windowSize, windowSize]
  have hwindow : m.window = (durations entries).rtake (min n 100) := by
    rw [h.window, List.rtake, List.rtake, windowSize]
    congr 1
    omega
  have haverage : m.averageTime = if n = 0 then 0.0
      else m.window.foldl (· + ·) 0.0 / Float.ofNat (min n 100) := by
    rw [h.average, ← h.window, mean, hlength]
    exact if_congr List.length_eq_zero_iff.symm rfl rfl
  have hnext : ∀ duration,
      (slide m.window duration).length = min (n + 1) 100 ∧ 0 < min (n + 1) 100 := by
    intro duration
    rw [h.window, slide_rtake, length_rtake_windowSize, List.length_append, List.length_singleton,
      windowSize]
    exact ⟨rfl, by omega⟩
  refine ⟨hwindow, hlength, haverage, hnext, ⟨rfl, rfl⟩, ?_⟩
  intro label
  exact ⟨rfl, rfl⟩

end Metrics

end QueryLint
