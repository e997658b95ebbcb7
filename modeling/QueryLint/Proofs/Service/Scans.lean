import QueryLint.Proofs.Service.Errors
import QueryLint.Proofs.Session.Accounting

/-!
# Which texts the catalog is evaluated on

`Command.scan?` says on which text a command has the catalog evaluated, if on any, and
`Service.Scans` when a request comes that far.  The metrics record every evaluation with its mode,
its duration and the rules that fired, and nothing else counts as one; so they bear out both: after
a request they show the evaluation that the request leads to (`Service.sameScans_of_scans`), or none
(`Service.sameScans_of_not_scans`).
-/

namespace QueryLint

/-- An evaluation of the catalog on a text, in one of its two modes. -/
inductive Scan where
  | detailed (text : String)
  | summary (text : String)
deriving DecidableEq, Repr

namespace Scan

/-- The text that is read. -/
def text : Scan → String
  | detailed t | summary t => t

/-- The metrics after an evaluation. -/
def record (seconds : Float) (m : Metrics) : Scan → Metrics
  | detailed t => m.recordAnalysis seconds detailedMode ((analyze t).map (·.rule))
  | summary t => m.recordAnalysis seconds summaryMode ((summarize t).filterMap ruleName?)

/-- The metrics after an evaluation, or after none. -/
def recordAny (seconds : Float) (m : Metrics) (scan? : Option Scan) : Metrics :=
  scan?.elim m (record seconds m)

end Scan

/-- The same evaluations of the catalog have been recorded; what was skipped and what failed may
differ. -/
structure Metrics.SameScans (m m' : Metrics) : Prop where
  analyses : m'.analyses = m.analyses
  findings : m'.findings = m.findings
  window : m'.window = m.window
  latency : m'.latency = m.latency

/-- The evaluation that publishing diagnostics of a document takes. -/
def Document.scan? (settings : Settings) (d : Document) : Option Scan :=
  if d.isSql settings then some (.detailed d.text) else none

/-- The evaluation that a command leads to: of a text to be analyzed or summarized, of a document
that is SQL once it is opened or changed, or of the active document. -/
def Command.scan? (settings : Settings) (w : Workspace) : Command → Option Scan
  | analyze text => some (.detailed text)
  | summarize text => some (.summary text)
  | openDocument r => (w.opened r.uri r.languageId (some r.text)).scan? settings
  | changeDocument r =>
    (w.documents.get? r.uri).bind fun d => (Workspace.edited d (some r.text)).scan? settings
  | detect => w.activeDocument.map fun d => .summary d.text
  | focusDocument _ | closeDocument _ | diagnostics _ => none

/-- Whether a fault strikes the operation of a command. -/
def Command.IsStruck (fault : Option Fault) (command : Command) : Prop :=
  ∃ f, fault = some f ∧ command.operation? = some f.target

namespace Metrics.SameScans

variable {m m' m'' : Metrics}

lemma refl (m : Metrics) : m.SameScans m :=
  ⟨rfl, rfl, rfl, rfl⟩

lemma trans (h : m.SameScans m') (h' : m'.SameScans m'') : m.SameScans m'' :=
  ⟨h'.analyses.trans h.analyses, h'.findings.trans h.findings, h'.window.trans h.window,
    h'.latency.trans h.latency⟩

lemma recordSkip (m : Metrics) : m.SameScans m.recordSkip :=
  ⟨rfl, rfl, rfl, rfl⟩

lemma recordError (m : Metrics) (label : String) : m.SameScans (m.recordError label) :=
  ⟨rfl, rfl, rfl, rfl⟩

end Metrics.SameScans

/-! ### Operations of a session -/

namespace Session

variable {settings : Settings} {s : Session} {uri : String} {d : Document}

lemma sameScans_refresh (settings : Settings) (s : Session) (seconds : Float) (d : Document) :
    (Scan.recordAny seconds s.metrics (d.scan? settings)).SameScans
      (s.refresh settings seconds d).session.metrics := by
  cases hsql : d.isSql settings with
  | true =>
    rw [refresh_of_sql s hsql, map_rule_diagnose, Document.scan?, hsql]
    exact .refl _
  | false =>
    rw [refresh_of_not_sql s hsql, Document.scan?, hsql]
    exact .recordSkip _

lemma sameScans_onOpened (settings : Settings) (s : Session) (seconds : Float) (uri : String)
    (languageId : Json.Text) (text : Option String) (activate : Bool) :
    (Scan.recordAny seconds s.metrics
        ((s.workspace.opened uri languageId text).scan? settings)).SameScans
      (s.onOpened settings seconds uri languageId text activate).session.metrics :=
  sameScans_refresh settings
    ⟨(s.workspace.openDocument uri languageId text activate).1, s.metrics⟩ seconds
    (s.workspace.opened uri languageId text)

lemma sameScans_onChanged {seconds : Float} {text : Option String}
    {o : Outcome (List Diagnostic)} (hd : s.workspace.documents.get? uri = some d)
    (h : s.onChanged settings seconds uri text = .ok o) :
    (Scan.recordAny seconds s.metrics ((Workspace.edited d text).scan? settings)).SameScans
      o.session.metrics := by
  rw [onChanged, Workspace.changeDocument_of_open hd] at h
  cases h
  exact sameScans_refresh settings
    ⟨{ s.workspace with documents := s.workspace.documents.insert uri (Workspace.edited d text) },
      s.metrics⟩ seconds (Workspace.edited d text)

lemma metrics_detect {seconds : Float} {o : Outcome Notification}
    (hd : s.workspace.activeDocument = some d) (h : s.detect seconds = .ok o) :
    o.session.metrics = Scan.record seconds s.metrics (.summary d.text) := by
  rw [detect, hd] at h
  cases h
  rfl

end Session

/-! ### Requests -/

namespace Service

variable {settings : Settings} {s : Service} {call : Call} {command : Command} {scan : Scan}

/-- A request has the catalog evaluated: its command is run, no fault strikes it, and it leads to
the evaluation. -/
def Scans (settings : Settings) (s : Service) (call : Call) (scan : Scan) : Prop :=
  ∃ command, Reaches settings s call command ∧ ¬ command.IsStruck call.fault ∧
    command.scan? settings s.session.workspace = some scan

lemma sameScans_failed (s : Service) (route : GuardedRoute) (f : Failure) :
    s.session.metrics.SameScans (s.failed route f).service.session.metrics := by
  rw [metrics_failed]
  cases route.errorLabel? with
  | none => exact .refl _
  | some label => exact .recordError _ _

lemma sameScans_finish {α : Type} (s : Service) (route : GuardedRoute) (o : Outcome α)
    (response : Outcome α → Except Failure Response) :
    o.session.metrics.SameScans (s.finish route (.ok o) response).service.session.metrics := by
  simp only [finish]
  split
  next f _ => exact sameScans_failed (s.withSession o.session) route f
  next => exact .refl _

lemma run_of_not_struck {fault : Option Fault} (h : ¬ command.IsStruck fault)
    (settings : Settings) (seconds : Float) (s : Service) :
    run settings seconds fault s command = run settings seconds none s command := by
  cases fault with
  | none => rfl
  | some f =>
    have hne : command.operation? ≠ some f.target := fun heq => h ⟨f, rfl, heq⟩
    cases command with
    | focusDocument _ | closeDocument _ | diagnostics _ => rfl
    | analyze _ | summarize _ | openDocument _ | changeDocument _ | detect =>
      have hne : f.target ≠ _ := fun heq => hne (congrArg some heq.symm)
      simp only [run, unlessFault, if_neg hne]

/-- What running a command has evaluated is what the command leads to. -/
theorem sameScans_run (settings : Settings) (seconds : Float) (s : Service) (command : Command) :
    (Scan.recordAny seconds s.session.metrics
        (command.scan? settings s.session.workspace)).SameScans
      (run settings seconds none s command).service.session.metrics := by
  cases command with
  | analyze text => exact sameScans_finish s .analyze (s.session.analyzeText seconds text) _
  | summarize text => exact sameScans_finish s .summarize (s.session.summarizeText seconds text) _
  | openDocument r =>
    have hopened := Session.sameScans_onOpened settings s.session seconds r.uri r.languageId
      (some r.text) r.activate
    exact hopened.trans (sameScans_finish s .openDocument _ _)
  | changeDocument r =>
    simp only [run, unlessFault, Command.scan?]
    cases hd : s.session.workspace.documents.get? r.uri with
    | none =>
      rw [Session.onChanged_of_not_open settings hd]
      exact sameScans_failed _ _ _
    | some d =>
      obtain ⟨o, ho, -⟩ := Session.onChanged_of_open settings hd seconds (some r.text)
      rw [ho]
      exact (Session.sameScans_onChanged hd ho).trans (sameScans_finish _ _ _ _)
  | detect =>
    simp only [run, unlessFault, Command.scan?]
    cases hd : s.session.workspace.activeDocument with
    | none =>
      rw [Session.detect_of_not_active hd]
      exact sameScans_failed _ _ _
    | some d =>
      obtain ⟨o, ho, -⟩ := Session.detect_of_active hd seconds
      have hmetrics := sameScans_finish s .detect o fun o => .ok (.notification o.value)
      rw [Session.metrics_detect hd ho] at hmetrics
      rw [ho]
      exact hmetrics
  | focusDocument uri =>
    simp only [run, quiet, Command.scan?]
    cases s.session.workspace.focus uri with
    | error f => exact sameScans_failed _ _ _
    | ok w => exact sameScans_finish s _ ⟨{ s.session with workspace := w.1 }, (), []⟩ _
  | closeDocument uri =>
    simp only [run, quiet, Command.scan?]
    cases s.session.workspace.closeDocument uri with
    | error f => exact sameScans_failed _ _ _
    | ok w => exact sameScans_finish s _ ⟨{ s.session with workspace := w }, (), []⟩ _
  | diagnostics uri => exact sameScans_finish s _ ⟨s.session, (), []⟩ _

/-- **An evaluation on the books**: after a request that has the catalog evaluated the metrics show
this evaluation. -/
theorem sameScans_of_scans (h : Scans settings s call scan) :
    (scan.record call.seconds s.session.metrics).SameScans
      (s.handle settings call).service.session.metrics := by
  obtain ⟨command, hreaches, hstruck, hscan⟩ := h
  have hrun := sameScans_run settings call.seconds (s.countRequest call.request command.route).1
    command
  rw [session_countRequest, hscan] at hrun
  rw [handle_of_reaches hreaches, run_of_not_struck hstruck]
  exact hrun

/-- **No other evaluation**: after any other request the metrics show no evaluation. -/
theorem sameScans_of_not_scans (h : ∀ scan, ¬ Scans settings s call scan) :
    s.session.metrics.SameScans (s.handle settings call).service.session.metrics := by
  cases handling settings s call with
  | page _ hs _ | rejected hs _ _ =>
    rw [hs]
    exact .refl _
  | admitted command hadm hhandle =>
    rw [hhandle]
    cases accepting settings s call command with
    | tooMany _ haccept | tooLong _ _ _ _ _ haccept =>
      rw [haccept, session_countRequest]
      exact .refl _
    | run hcount hlength haccept =>
      rw [haccept]
      by_cases hstruck : command.IsStruck call.fault
      · obtain ⟨f, hfault, htarget⟩ := hstruck
        rw [hfault, run_of_struck settings call.seconds _ htarget]
        have hfailed := sameScans_failed (s.countRequest call.request command.route).1 command.route
          f.failure
        rwa [session_countRequest] at hfailed
      · have hnone : command.scan? settings s.session.workspace = none :=
          Option.eq_none_iff_forall_ne_some.mpr fun scan hscan =>
            h scan ⟨command, ⟨hadm, hcount, hlength⟩, hstruck, hscan⟩
        have hrun := sameScans_run settings call.seconds
          (s.countRequest call.request command.route).1 command
        rw [session_countRequest, hnone] at hrun
        rw [run_of_not_struck hstruck]
        exact hrun

end Service

end QueryLint
