import QueryLint.Diagnostic
import QueryLint.Schema.Object

/-!
# Findings and diagnostics on the wire

The object forms of findings, positions, ranges and diagnostics, read by `check` and written by
`json`.  A finding has a severity field, which is always the same.
-/

namespace QueryLint

open Schema

/-- The only severity of a finding. -/
def findingSeverity : String := "warning"

namespace Finding

/-- The names of the offset of a match. -/
def startOffsetName : FieldName := ⟨"startOffset", "start_offset"⟩

/-- The finding that the fields of an object describe. -/
def ofFields (fields : Fields) : Check Finding :=
  (required (.same "code") text fields).both
    ((required (.same "rule") text fields).both
      ((required (.same "message") text fields).both
        ((required startOffsetName natural fields).both
          ((required (.same "length") natural fields).both
            (optional (.same "severity") () (oneOf [(findingSeverity, ())]) fields)))))
  |>.map fun (code, rule, message, startOffset, length, _) =>
    ⟨code, rule, message, startOffset, length⟩

/-- A finding. -/
def check (j : Json) : Check Finding :=
  (object j).bind ofFields

/-- The fields of a finding. -/
def fields (naming : Naming) (f : Finding) : Fields :=
  [("code", .str f.code), ("rule", .str f.rule), ("message", .str f.message),
    (startOffsetName.under naming, .nat f.startOffset), ("length", .nat f.length),
    ("severity", .str findingSeverity)]

/-- The object form of a finding. -/
def json (naming : Naming) (f : Finding) : Json :=
  .obj (f.fields naming)

end Finding

namespace Position

/-- A position. -/
def check (j : Json) : Check Position :=
  (object j).bind fun fields =>
    (required (.same "line") natural fields).both (required (.same "character") natural fields)
    |>.map fun (line, character) => ⟨line, character⟩

/-- The object form of a position. -/
def json (p : Position) : Json :=
  .obj [("line", .nat p.line), ("character", .nat p.character)]

end Position

namespace Range

/-- A range. -/
def check (j : Json) : Check Range :=
  (object j).bind fun fields =>
    (required (.same "start") Position.check fields).both
      (required (.same "end") Position.check fields)
    |>.map fun (start, stop) => ⟨start, stop⟩

/-- The object form of a range. -/
def json (r : Range) : Json :=
  .obj [("start", r.start.json), ("end", r.stop.json)]

end Range

namespace Diagnostic

/-- A diagnostic. -/
def check (j : Json) : Check Diagnostic :=
  (object j).bind fun fields =>
    (Finding.ofFields fields).both (required (.same "range") Range.check fields)
    |>.map fun (finding, range) => ⟨finding, range⟩

/-- The object form of a diagnostic. -/
def json (naming : Naming) (d : Diagnostic) : Json :=
  let range : Fields := [("range", d.range.json)]
  .obj (d.toFinding.fields naming ++ range)

end Diagnostic

end QueryLint
