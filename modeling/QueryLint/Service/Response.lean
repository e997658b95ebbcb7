import QueryLint.Failure
import QueryLint.Json.Writer
import QueryLint.Metrics.Exposition
import QueryLint.Model.Answer

/-!
# Responses

The answers of the service, by what they say, with the status and the body that each of them has.
An answer that repeats parts of the request may hold values that cannot be sent.
-/

namespace QueryLint

/-- How many requests of a client to one route are answered within a window of time. -/
structure RateLimit where
  amount : Nat := 120
  window : String := "1 minute"
deriving DecidableEq, Repr

namespace RateLimit

/-- What a client is told that has sent too many requests. -/
def message (l : RateLimit) : String :=
  "Rate limit exceeded: " ++ toString l.amount ++ " per " ++ l.window

end RateLimit

/-- An answer of the service. -/
inductive Response where
  | health (metrics : Metrics)
  | exposition (metrics : Metrics)
  | rules (rules : List RuleInfo)
  | findings (report : AnalysisReport)
  | notification (n : Notification)
  | document (report : DocumentReport)
  | closed (report : ClosedReport)
  | refused (refusal : Refusal)
  | invalid (issues : List Issue)
  | tooMany (limit : RateLimit)
  /-- A page that describes the service. -/
  | page
  /-- The path is answered without the slashes at its end. -/
  | moved
  | unknownPath
  | wrongMethod

/-- What keeps an answer from being sent. -/
inductive SendError where
  /-- Its body cannot be written. -/
  | body (e : Json.WriteError)
  /-- A text in it cannot be written; places are counted in that text. -/
  | field (e : Json.WriteError)
deriving DecidableEq, Repr

/-- The version of the program. -/
def programVersion : String := "0.1.0"

namespace Response

/-- The status of an answer. -/
def status : Response → Int
  | refused r => r.status
  | invalid _ => 422
  | tooMany _ => 429
  | moved => 307
  | unknownPath => 404
  | wrongMethod => 405
  | _ => 200

/-- An explanation. -/
def detail (text : String) : Json :=
  .obj [("detail", .str text)]

/-- The totals and the average duration. -/
def metricsJson (m : Metrics) : Json :=
  .obj [("documents_analyzed", .nat m.totals.documentsAnalyzed),
    ("summaries_generated", .nat m.totals.summariesGenerated),
    ("findings_reported", .nat m.totals.findingsReported),
    ("documents_skipped", .nat m.totals.documentsSkipped),
    ("errors_occurred", .nat m.totals.errorsOccurred),
    ("average_analysis_time", .decimal (.ofFloat m.averageTime))]

/-- A step of a path. -/
def stepJson : PathStep → Json
  | .field name => .str name
  | .item index => .nat index

/-- The beginning of names that are never repeated to a client. -/
def internalMark : String := "_sa"

mutual

/-- A value as it is repeated to a client: without fields that have an internal name. -/
def echo : Json → Json
  | .arr items => .arr (echoItems items)
  | .obj fields => .obj (echoFields fields)
  | j => j

/-- The items of an array as they are repeated. -/
def echoItems : List Json → List Json
  | [] => []
  | j :: rest => echo j :: echoItems rest

/-- The fields of an object as they are repeated. -/
def echoFields : List (Json.Text × Json) → List (Json.Text × Json)
  | [] => []
  | (key, j) :: rest =>
    if internalMark.toList.isPrefixOf key.chars.toList then echoFields rest
    else (key, echo j) :: echoFields rest

end

/-- An issue with its path and the value that it is about. -/
def issueJson (i : Issue) : Json :=
  let limit := match i.kind.limit? with
    | some (name, bound) => [("ctx", .record [(name, bound)])]
    | none => []
  .record ([("type", .str i.kind.code), ("loc", .arr (i.path.map stepJson)),
    ("msg", .str i.kind.message), ("input", echo i.input)] ++ limit)

/-- The body of an answer. -/
def body : Response → Json
  | health m =>
    .obj [("ok", .bool true), ("metrics", metricsJson m), ("version", .str programVersion)]
  | exposition m => .strings (Exposition.lines m)
  | rules rs => .arr (rs.map RuleInfo.json)
  | findings r => r.json .wire
  | notification n => n.json
  | document r => r.json .wire
  | closed r => r.json
  | refused r => detail r.detail
  | invalid issues => .obj [("detail", .arr (issues.map issueJson))]
  | tooMany limit => .obj [("error", .str limit.message)]
  | page => .null
  | moved => .null
  | unknownPath => detail "Not Found"
  | wrongMethod => detail "Method Not Allowed"

/-- What keeps the answer from being sent.  A report is written field by field, every other answer
as a whole. -/
def sendError? : Response → Option SendError
  | document r => (Json.loneHalves? r.languageId.points).map .field
  | r => r.body.writeError?.map .body

end Response

end QueryLint
