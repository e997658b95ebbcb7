import QueryLint.Metrics.Basic
import QueryLint.Number.Shortest

/-!
# Exposition

The metrics as lines of text for the monitoring system: for each metric a line of help, a line with
its type, and one line per sample, with the labels in braces.
-/

namespace QueryLint

namespace Exposition

/-! ### Numbers -/

/-- Positive numbers are written out up to six digits before the point. -/
def positive : Layout := ⟨-4, 5, 2⟩

/-- A sample value. -/
def number (x : Float) : String :=
  if x.isNaN then "NaN"
  else if x.isInf then if x < 0.0 then "-Inf" else "+Inf"
  else if 0.0 < x then positive.render x
  else Layout.plain.render x

/-! ### Lines -/

/-- One character of a label value. -/
def escapeChar (c : Char) : List Char :=
  if c == '\\' then ['\\', '\\']
  else if c == '\n' then ['\\', 'n']
  else if c == '"' then ['\\', '"']
  else [c]

/-- A label with its value. -/
def label (name value : String) : String :=
  name ++ "=\"" ++ String.ofList (value.toList.flatMap escapeChar) ++ "\""

/-- The line of a sample. -/
def sample (name : String) (labels : List String) (value : Float) : String :=
  let braces := if labels.isEmpty then "" else "\x7b" ++ ",".intercalate labels ++ "\x7d"
  name ++ braces ++ " " ++ number value

/-- The two lines that introduce a metric. -/
def header (name help kind : String) : List String :=
  ["# HELP " ++ name ++ " " ++ help, "# TYPE " ++ name ++ " " ++ kind]

/-- The lines of a counter for each value of one label. -/
def counter (name help labelName : String) (s : Series) : List String :=
  header name help "counter" ++
    s.entries.map fun (value, n) => sample name [label labelName value] (Float.ofNat n)

/-- The lines of the histogram of one mode. -/
def histogram (name mode : String) (h : Histogram) : List String :=
  let buckets := (latencyLabels.zip h.cumulative).map fun (bound, n) =>
    sample (name ++ "_bucket") [label "le" bound, label "mode" mode] (Float.ofNat n)
  buckets ++
    [sample (name ++ "_count") [label "mode" mode] (Float.ofNat h.count),
      sample (name ++ "_sum") [label "mode" mode] h.sum]

/-- The name of the latency histogram. -/
def latencyName : String := "slowquery_analysis_latency_seconds"

/-- All lines. -/
def lines (m : Metrics) : List String :=
  counter "slowquery_analyses_total" "Total documents analyzed" "mode" m.analyses ++
  counter "slowquery_findings_total" "Total findings reported" "rule" m.findings ++
  header "slowquery_skipped_documents_total" "Documents skipped as non-SQL" "counter" ++
  [sample "slowquery_skipped_documents_total" [] (Float.ofNat m.skipped)] ++
  counter "slowquery_errors_total" "Total errors occurred" "type" m.errors ++
  header latencyName "Rule catalog evaluation time in seconds" "histogram" ++
  m.latency.entries.flatMap fun (mode, h) => histogram latencyName mode h

end Exposition

end QueryLint
