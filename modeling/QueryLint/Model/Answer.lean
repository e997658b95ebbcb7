import QueryLint.Model.Finding
import QueryLint.Model.Request
import QueryLint.Notification

/-!
# Answers on the wire

The bodies that the service sends.
-/

namespace QueryLint

open Schema

/-- What clients learn about a rule. -/
structure RuleInfo where
  code : String
  name : String
  pattern : String
  message : String
deriving DecidableEq, Repr

namespace RuleInfo

/-- The description of a rule of the catalog. -/
def ofRule (r : Rule) : RuleInfo :=
  ⟨r.code, r.name, r.pattern.source, r.message⟩

/-- The description of a rule. -/
def check (j : Json) : Check RuleInfo :=
  (object j).bind fun fields =>
    (required (.same "code") text fields).both
      ((required (.same "name") text fields).both
        ((required (.same "pattern") text fields).both (required (.same "message") text fields)))
    |>.map fun (code, name, pattern, message) => ⟨code, name, pattern, message⟩

/-- The object form of the description. -/
def json (r : RuleInfo) : Json :=
  .obj [("code", .str r.code), ("name", .str r.name), ("pattern", .str r.pattern),
    ("message", .str r.message)]

end RuleInfo

/-- The findings of a text and their number. -/
structure AnalysisReport where
  findings : List Finding
  total : Int
deriving DecidableEq, Repr

namespace AnalysisReport

/-- The report on a list of findings. -/
def ofFindings (findings : List Finding) : AnalysisReport :=
  ⟨findings, findings.length⟩

/-- A report; the total is not compared with the list. -/
def check (j : Json) : Check AnalysisReport :=
  (object j).bind fun fields =>
    (optional (.same "findings") [] (list Finding.check) fields).both
      (optional (.same "total") 0 integer fields)
    |>.map fun (findings, total) => ⟨findings, total⟩

/-- The object form of the report. -/
def json (naming : Naming) (r : AnalysisReport) : Json :=
  .obj [("findings", .arr (r.findings.map (Finding.json naming))), ("total", .int r.total)]

end AnalysisReport

namespace Notification

/-- The levels by the texts that stand for them. -/
def levels : List (String × NotificationLevel) :=
  [("warning", .warning), ("info", .info)]

/-- A notification. -/
def check (j : Json) : Check Notification :=
  (object j).bind fun fields =>
    (required (.same "level") (oneOf levels) fields).both
      ((required (.same "message") text fields).both
        (optional (.same "issues") [] (list text) fields))
    |>.map fun (level, message, issues) => ⟨level, message, issues⟩

/-- The object form of a notification. -/
def json (n : Notification) : Json :=
  .obj [("level", .str n.level.label), ("message", .str n.message), ("issues", .strings n.issues)]

end Notification

/-- The current diagnostics of a document. -/
structure DocumentReport where
  uri : String
  languageId : Json.Text
  version : Int
  diagnostics : List Diagnostic
deriving DecidableEq, Repr

namespace DocumentReport

/-- A report on a document. -/
def check (j : Json) : Check DocumentReport :=
  (object j).bind fun fields =>
    (required (.same "uri") text fields).both
      ((required languageIdName anyText fields).both
        ((required (.same "version") integer fields).both
          (optional (.same "diagnostics") [] (list Diagnostic.check) fields)))
    |>.map fun (uri, languageId, version, diagnostics) => ⟨uri, languageId, version, diagnostics⟩

/-- The object form of the report. -/
def json (naming : Naming) (r : DocumentReport) : Json :=
  .obj [("uri", .str r.uri), (languageIdName.under naming, .str r.languageId),
    ("version", .int r.version), ("diagnostics", .arr (r.diagnostics.map (Diagnostic.json naming)))]

end DocumentReport

/-- The confirmation that a document was closed. -/
structure ClosedReport where
  uri : String
  closed : Bool
deriving DecidableEq, Repr

namespace ClosedReport

/-- The confirmation. -/
def check (j : Json) : Check ClosedReport :=
  (object j).bind fun fields =>
    (required (.same "uri") text fields).both (optional (.same "closed") true boolean fields)
    |>.map fun (uri, closed) => ⟨uri, closed⟩

/-- The object form of the confirmation. -/
def json (r : ClosedReport) : Json :=
  .obj [("uri", .str r.uri), ("closed", .bool r.closed)]

end ClosedReport

end QueryLint
