import QueryLint.Analysis
import QueryLint.Text.Lines

/-!
# Diagnostics

A diagnostic is a finding with the place of its two ends in the lines of a document.  The two
offsets are moved into the text first, so a diagnostic always has a range, even for a finding that
lies outside.
-/

namespace QueryLint

/-- A stretch of a document between two positions. -/
structure Range where
  start : Position
  stop : Position
deriving DecidableEq, Repr

/-- A finding with its range in a document. -/
structure Diagnostic extends Finding where
  range : Range
deriving DecidableEq, Repr

namespace LineIndex

/-- The range between two offsets. -/
def range (index : LineIndex) (start stop : Nat) : Range :=
  ⟨index.position start, index.position stop⟩

/-- The diagnostic of a finding in the text with this line index. -/
def locate (index : LineIndex) (f : Finding) : Diagnostic where
  toFinding := f
  range := index.range f.startOffset f.endOffset

end LineIndex

end QueryLint
