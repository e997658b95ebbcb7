import QueryLint.Event
import QueryLint.Metrics.Basic
import QueryLint.Notification
import QueryLint.Workspace

/-!
# Sessions

The operations of the editor on a workspace, with the metrics and log entries that they leave:
checks on demand, and the analysis of documents as they are opened and changed.  Each operation that
evaluates the catalog is told how long the evaluation took.  An operation that fails changes
nothing.
-/

namespace QueryLint

/-- A workspace and the metrics of the work done. -/
structure Session where
  workspace : Workspace
  metrics : Metrics

/-- What an operation gives: the session after it, its result and the entries it logged. -/
structure Outcome (α : Type) where
  session : Session
  value : α
  log : List LogEntry

namespace Outcome

/-- The same outcome with another result. -/
def map {α β : Type} (f : α → β) (o : Outcome α) : Outcome β :=
  { session := o.session, value := f o.value, log := o.log }

end Outcome

/-- The name of the rule with a message. -/
def ruleName? (message : String) : Option String :=
  (catalog.find? fun r => r.message == message).map Rule.name

namespace Session

/-- A session that publishes to the given collection. -/
def new (collection : Option DiagnosticCollection) : Session where
  workspace := .new collection
  metrics := {}

/-- Detailed mode over a text. -/
def analyzeText (s : Session) (seconds : Float) (text : String) : Outcome (List Finding) :=
  let findings := analyze text
  { session :=
      { s with metrics := s.metrics.recordAnalysis seconds detailedMode (findings.map (·.rule)) }
    value := findings
    log := [.timing "analyze_text"] }

/-- Summary mode over a text. -/
def summarizeText (s : Session) (seconds : Float) (text : String) : Outcome Notification :=
  let issues := summarize text
  let fired := issues.filterMap ruleName?
  { session := { s with metrics := s.metrics.recordAnalysis seconds summaryMode fired }
    value := notify issues
    log := [.timing "summarize_text"] }

/-- The check of the active document on demand, whatever its language id. -/
def detect (s : Session) (seconds : Float) : Except Failure (Outcome Notification) :=
  match s.workspace.activeDocument with
  | none => .error (.noActiveDocument Failure.noActiveMessage)
  | some d =>
    let outcome := s.summarizeText seconds d.text
    let event : Event :=
      { kind := "command_run"
        details := [("uri", .str d.uri), ("version", .int d.version),
          ("issues", .nat outcome.value.issues.length)] }
    .ok { outcome with log := outcome.log ++ [event.entry] }

/-- Publishes the diagnostics of a document after it was opened or changed.  What was published for
a document that is not SQL is withdrawn: it may have been SQL before. -/
def refresh (s : Session) (settings : Settings) (seconds : Float) (d : Document) :
    Outcome (List Diagnostic) :=
  if d.isSql settings then
    let (collection, ds, log) := reportDiagnostics settings d s.workspace.diagnostics
    { session :=
        { workspace := { s.workspace with diagnostics := collection }
          metrics := s.metrics.recordAnalysis seconds detailedMode (ds.map (·.rule)) }
      value := ds
      log := log ++ [.timing ("report_diagnostics[" ++ d.uri ++ "]")] }
  else
    { session :=
        { workspace := { s.workspace with diagnostics := s.workspace.diagnostics.delete d.uri }
          metrics := s.metrics.recordSkip }
      value := []
      log := [] }

/-- Opens a document and publishes its diagnostics. -/
def onOpened (s : Session) (settings : Settings) (seconds : Float) (uri : String)
    (languageId : Json.Text) (text : Option String) (activate : Bool) : Outcome (List Diagnostic) :=
  let (workspace, d) := s.workspace.openDocument uri languageId text activate
  let outcome := Session.refresh { s with workspace := workspace } settings seconds d
  let event : Event :=
    { kind := "document_opened"
      details := [("uri", .str uri), ("language_id", .str languageId),
        ("diagnostics", .nat outcome.value.length)] }
  { outcome with log := outcome.log ++ [event.entry] }

/-- Replaces the text of a document and its diagnostics. -/
def onChanged (s : Session) (settings : Settings) (seconds : Float) (uri : String)
    (text : Option String) : Except Failure (Outcome (List Diagnostic)) := do
  let (workspace, d) ← s.workspace.changeDocument uri text
  let outcome := Session.refresh { s with workspace := workspace } settings seconds d
  let entry := LogEntry.message .debug .session
    (uri ++ " v" ++ toString d.version ++ ": " ++ toString outcome.value.length ++ " diagnostics")
  return { outcome with log := outcome.log ++ [entry] }

/-! ### Histories -/

/-- An operation of the editor. -/
inductive Action where
  | opened (uri : String) (languageId : Json.Text) (text : Option String) (activate : Bool)
  | changed (uri : String) (text : Option String)
  | focus (uri : String)
  | close (uri : String)
  | detect
  | analyzeText (text : String)
  | summarizeText (text : String)
deriving DecidableEq, Repr

/-- What an operation shows. -/
inductive Result where
  | findings (fs : List Finding)
  | diagnostics (ds : List Diagnostic)
  | notification (n : Notification)
  | document (d : Document)
  | nothing
deriving DecidableEq, Repr

/-- Performs an operation. -/
def perform (s : Session) (settings : Settings) (seconds : Float) :
    Action → Except Failure (Outcome Result)
  | .opened uri languageId text activate =>
    .ok (.map .diagnostics (s.onOpened settings seconds uri languageId text activate))
  | .changed uri text =>
    (s.onChanged settings seconds uri text).map (Outcome.map .diagnostics)
  | .focus uri =>
    (s.workspace.focus uri).map fun (w, d) => ⟨{ s with workspace := w }, .document d, []⟩
  | .close uri =>
    (s.workspace.closeDocument uri).map fun w => ⟨{ s with workspace := w }, .nothing, []⟩
  | .detect => (s.detect seconds).map (Outcome.map .notification)
  | .analyzeText text => .ok (.map .findings (s.analyzeText seconds text))
  | .summarizeText text => .ok (.map .notification (s.summarizeText seconds text))

/-- The session after an operation: the same one if the operation fails. -/
def after (s : Session) (settings : Settings) (step : Action × Float) : Session :=
  match s.perform settings step.2 step.1 with
  | .ok outcome => outcome.session
  | .error _ => s

/-- The session after a history of operations, each with its duration. -/
def replay (s : Session) (settings : Settings) (history : List (Action × Float)) : Session :=
  history.foldl (fun s step => s.after settings step) s

/-- What each operation of a history gives. -/
def outcomes (s : Session) (settings : Settings) :
    List (Action × Float) → List (Except Failure (Outcome Result))
  | [] => []
  | step :: rest =>
    s.perform settings step.2 step.1 :: (s.after settings step).outcomes settings rest

@[simp]
theorem replay_nil (settings : Settings) (s : Session) : s.replay settings [] = s := rfl

@[simp]
theorem replay_cons (settings : Settings) (s : Session) (step : Action × Float)
    (history : List (Action × Float)) :
    s.replay settings (step :: history) = (s.after settings step).replay settings history := rfl

end Session

end QueryLint
