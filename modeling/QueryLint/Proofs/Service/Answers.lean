import QueryLint.Proofs.Json.Sendable
import QueryLint.Proofs.Service.Diagnostics

/-!
# What requests are answered, and what failed ones leave behind

`Service.ran` says what running a command can come to: a fault strikes it, it fails since a document
is not open or none is active (`Command.obstacle?`), or it is carried out.  In the first two cases
nothing but the count of errors has changed (`Session.SameWork`); in the last one the answer is a
product of the operation, which has the status of a success.

Every such answer can be sent, with one exception: the report on a document whose language id holds
half of a surrogate pair.  Opening such a document is carried out, although the client never gets
the answer (`open_carried_out_without_answer`).
-/

namespace QueryLint

/-- Two sessions hold the same workspace and have counted the same work; the errors that they have
counted may differ. -/
structure Session.SameWork (s t : Session) : Prop where
  workspace : t.workspace = s.workspace
  documentsAnalyzed :
    t.metrics.totals.documentsAnalyzed = s.metrics.totals.documentsAnalyzed
  summariesGenerated :
    t.metrics.totals.summariesGenerated = s.metrics.totals.summariesGenerated
  findingsReported :
    t.metrics.totals.findingsReported = s.metrics.totals.findingsReported
  documentsSkipped :
    t.metrics.totals.documentsSkipped = s.metrics.totals.documentsSkipped

lemma Session.SameWork.refl (s : Session) : s.SameWork s :=
  ⟨rfl, rfl, rfl, rfl, rfl⟩

/-! ### Answers that reach the client -/

namespace Response

open Json (Sendable)

/-- The status that the client sees; none if the answer cannot be sent. -/
def delivered? (r : Response) : Option Int :=
  if r.sendError?.isNone then some r.status else none

/-- Whether the client is told that its request was carried out. -/
def isConfirmed (r : Response) : Bool :=
  r.sendError?.isNone && r.isSuccess

/-- Whether an answer shows what an operation has produced. -/
def isProduct : Response → Bool
  | findings _ | notification _ | document _ | closed _ => true
  | _ => false

/-- Whether an answer repeats a language id that cannot be written. -/
def namesHalf : Response → Bool
  | document report => !report.languageId.isWhole
  | _ => false

lemma status_of_isProduct {r : Response} (h : r.isProduct = true) : r.status = 200 := by
  cases r <;> first | rfl | cases h

/-- What an operation has produced can be sent, unless it is a report that names half a pair. -/
theorem sendError?_of_isProduct {r : Response} (h : r.isProduct = true)
    (hwhole : r.namesHalf = false) : r.sendError? = none := by
  cases r with
  | document report =>
    have hlanguage : report.languageId.isWhole = true := by simpa [namesHalf] using hwhole
    have hpoints := Json.HalfFree.points hlanguage
    simp only [sendError?, hpoints.loneHalves?_eq_none, Option.map_none]
  | findings report =>
    have hbody : Sendable (963 + 3) (report.json .wire) := by
      simp [AnalysisReport.json, Finding.json, Finding.fields, Json.Text.isWhole]
    simp only [sendError?, body, hbody.writeError?_eq_none, Option.map_none]
  | notification n =>
    have hbody : Sendable (964 + 2) n.json := by
      simp [Notification.json, Json.strings, Json.Text.isWhole]
    simp only [sendError?, body, hbody.writeError?_eq_none, Option.map_none]
  | closed report =>
    have hbody : Sendable (965 + 1) report.json := by
      simp [ClosedReport.json, Json.Text.isWhole]
    simp only [sendError?, body, hbody.writeError?_eq_none, Option.map_none]
  | _ => cases h

lemma sendError?_refused (refusal : Refusal) : (refused refusal).sendError? = none := by
  have hbody : Sendable (965 + 1) (detail refusal.detail) := by
    simp [detail, Json.Text.isWhole]
  simp only [sendError?, body, hbody.writeError?_eq_none, Option.map_none]

end Response

/-- Why a command cannot be carried out in a workspace; nothing if it can. -/
def Command.obstacle? (w : Workspace) : Command → Option Failure
  | analyze _ | summarize _ | openDocument _ => none
  | changeDocument r =>
    if (w.documents.get? r.uri).isSome then none else some (.documentNotOpen r.uri)
  | focusDocument uri | closeDocument uri | diagnostics uri =>
    if (w.documents.get? uri).isSome then none else some (.documentNotOpen uri)
  | detect =>
    if w.activeDocument.isSome then none else some (.noActiveDocument Failure.noActiveMessage)

/-- The status of the answer to a command, by what is open. -/
def Command.dueStatus (w : Workspace) : Command → Int
  | analyze _ | summarize _ | openDocument _ => 200
  | changeDocument r => if (w.documents.get? r.uri).isSome then 200 else 404
  | focusDocument uri | closeDocument uri | diagnostics uri =>
    if (w.documents.get? uri).isSome then 200 else 404
  | detect => if w.activeDocument.isSome then 200 else 409

lemma Command.dueStatus_eq (w : Workspace) (command : Command) :
    command.dueStatus w = ((command.obstacle? w).map Failure.status).getD 200 := by
  cases command with
  | analyze _ | summarize _ | openDocument _ => rfl
  | changeDocument _ | focusDocument _ | closeDocument _ | diagnostics _ | detect =>
    simp only [dueStatus, obstacle?]
    split <;> rfl

namespace Service

variable {settings : Settings} {s : Service} {call : Call} {command : Command}

/-! ### Running a command -/

/-- What running a command can come to. -/
inductive Ran (fault : Option Fault) (s : Service) (command : Command) (h : Handled) : Prop where
  /-- A fault strikes the operation. -/
  | struck (f : Fault) : fault = some f → h = s.failed command.route f.failure →
      Ran fault s command h
  /-- The operation fails. -/
  | hindered (f : Failure) : command.obstacle? s.session.workspace = some f →
      h = s.failed command.route f → Ran fault s command h
  /-- The operation is carried out. -/
  | done : command.obstacle? s.session.workspace = none →
      h.response.isProduct = true → Ran fault s command h

lemma Ran.unlessFault {α : Type} {route : GuardedRoute} {fault : Option Fault} {target : Operation}
    {outcome : Except Failure (Outcome α)} {response : Outcome α → Except Failure Response}
    (hroute : route = command.route)
    (h : Ran fault s command (s.finish route outcome response)) :
    Ran fault s command
      (s.finish route (Service.unlessFault fault target outcome) response) := by
  subst hroute
  rcases unlessFault_cases fault target outcome with he | ⟨f, hf, he⟩
  · rwa [he]
  · rw [he]
    exact .struck f hf rfl

lemma isProduct_documentReport {α : Type} {o : Outcome α} {uri : String} {d : Document}
    (route : GuardedRoute) (hd : o.session.workspace.documents.get? uri = some d) :
    (s.finish route (.ok o) fun o =>
      documentReport o.session.workspace uri).response.isProduct = true := by
  simp only [finish, documentReport_eq_ok hd]
  rfl

/-- Every command that is run looks for what it needs before it changes anything. -/
theorem ran (settings : Settings) (seconds : Float) (fault : Option Fault) (s : Service)
    (command : Command) : Ran fault s command (run settings seconds fault s command) := by
  cases command with
  | analyze text | summarize text =>
    simp only [run]
    exact Ran.unlessFault rfl (.done rfl rfl)
  | openDocument r =>
    have hd : (s.session.onOpened settings seconds r.uri r.languageId (some r.text)
        r.activate).session.workspace.documents.get? r.uri
        = some (s.session.workspace.opened r.uri r.languageId (some r.text)) := by
      rw [Session.documents_onOpened, Table.get?_insert_self]
    simp only [run]
    exact Ran.unlessFault rfl (.done rfl (isProduct_documentReport _ hd))
  | changeDocument r =>
    simp only [run]
    refine Ran.unlessFault rfl ?_
    cases hd : s.session.workspace.documents.get? r.uri with
    | none =>
      rw [Session.onChanged_of_not_open settings hd]
      exact .hindered (.documentNotOpen _) (by simp [Command.obstacle?, hd]) rfl
    | some d =>
      obtain ⟨o, ho, -, hdocuments⟩ :=
        Session.onChanged_of_open settings hd seconds (some r.text)
      have hd' : o.session.workspace.documents.get? r.uri
          = some (Workspace.edited d (some r.text)) := by
        rw [hdocuments, Table.get?_insert_self]
      rw [ho]
      exact .done (by simp [Command.obstacle?, hd]) (isProduct_documentReport _ hd')
  | focusDocument uri =>
    simp only [run]
    cases hd : s.session.workspace.documents.get? uri with
    | none =>
      rw [Workspace.focus_of_not_open hd]
      exact .hindered (.documentNotOpen _) (by simp [Command.obstacle?, hd]) rfl
    | some d =>
      rw [Workspace.focus_of_open hd]
      exact .done (by simp [Command.obstacle?, hd]) (isProduct_documentReport _ hd)
  | closeDocument uri =>
    simp only [run]
    cases hd : s.session.workspace.documents.get? uri with
    | none =>
      rw [Workspace.closeDocument_of_not_open hd]
      exact .hindered (.documentNotOpen _) (by simp [Command.obstacle?, hd]) rfl
    | some d =>
      rw [Workspace.closeDocument_of_open hd]
      exact .done (by simp [Command.obstacle?, hd]) rfl
  | diagnostics uri =>
    -- the one operation that cannot fail itself: it is its report that does
    cases hd : s.session.workspace.documents.get? uri with
    | none =>
      refine .hindered (.documentNotOpen uri) (by simp [Command.obstacle?, hd]) ?_
      simp only [run, quiet, Except.map, finish, documentReport_eq_error hd]
      rfl
    | some d =>
      exact .done (by simp [Command.obstacle?, hd]) (isProduct_documentReport _ hd)
  | detect =>
    simp only [run]
    refine Ran.unlessFault rfl ?_
    cases hd : s.session.workspace.activeDocument with
    | none =>
      rw [Session.detect_of_not_active hd]
      exact .hindered (.noActiveDocument _) (by simp [Command.obstacle?, hd]) rfl
    | some d =>
      obtain ⟨o, ho, -⟩ := Session.detect_of_active hd seconds
      rw [ho]
      exact .done (by simp [Command.obstacle?, hd]) rfl

lemma sameWork_failed (route : GuardedRoute) (f : Failure) :
    s.session.SameWork (s.failed route f).service.session := by
  cases route <;> exact ⟨rfl, rfl, rfl, rfl, rfl⟩

lemma delivered?_failed (route : GuardedRoute) (f : Failure) :
    (s.failed route f).response.delivered? = some f.status := by
  have hresponse : (s.failed route f).response
      = .refused (f.handle (some route.context)).1 := rfl
  rw [Response.delivered?, status_failed, hresponse, Response.sendError?_refused]
  rfl

/-! ### Handling a request -/

/-- A request without a fault that passes every check. -/
structure Cleared (settings : Settings) (s : Service) (call : Call) (command : Command) : Prop where
  fault : call.fault = none
  admitted : Admitted settings call.request command
  count : (s.countRequest call.request command.route).2 = false
  length : ∀ text, command.text? = some text → text.length ≤ settings.maxDocumentLength

lemma handle_of_cleared (h : Cleared settings s call command) :
    s.handle settings call
      = run settings call.seconds none (s.countRequest call.request command.route).1 command := by
  rw [handle_of_reaches ⟨h.admitted, h.count, h.length⟩, h.fault]

/-- A request that is not confirmed to the client has changed no workspace and counted no work. -/
theorem sameWork_handle (hwhole : (s.handle settings call).response.namesHalf = false)
    (h : (s.handle settings call).response.isConfirmed = false) :
    s.session.SameWork (s.handle settings call).service.session := by
  cases handling settings s call with
  | page _ hs _ | rejected hs _ =>
    rw [hs]
    exact .refl _
  | admitted command _ hhandle =>
    rw [hhandle] at h hwhole ⊢
    have hcount := session_countRequest (s := s) call.request command.route
    -- a request that is one too many or too long is counted, but not for the work
    cases accepting settings s call command with
    | tooMany _ h' | tooLong _ _ _ _ _ h' =>
      rw [h', hcount]
      exact .refl _
    | run _ _ h' =>
      rw [h'] at h hwhole ⊢
      rw [← hcount]
      cases ran settings call.seconds call.fault _ command with
      | struck _ _ hrun | hindered _ _ hrun =>
        rw [hrun]
        exact sameWork_failed _ _
      | done _ hproduct =>
        have hsend := Response.sendError?_of_isProduct hproduct hwhole
        have hstatus := Response.status_of_isProduct hproduct
        simp [Response.isConfirmed, Response.isSuccess, hsend, hstatus] at h

/-- The answer to a request that passes every check. -/
theorem delivered?_of_cleared (hwhole : (s.handle settings call).response.namesHalf = false)
    (h : Cleared settings s call command) :
    (s.handle settings call).response.delivered?
      = some (command.dueStatus s.session.workspace) := by
  rw [handle_of_cleared h] at hwhole ⊢
  have hcount := session_countRequest (s := s) call.request command.route
  rw [← hcount]
  cases ran settings call.seconds none _ command with
  | struck _ hfault _ => cases hfault
  | hindered f hobstacle hrun =>
    rw [hrun, delivered?_failed, Command.dueStatus_eq, hobstacle]
    rfl
  | done hobstacle hproduct =>
    rw [Command.dueStatus_eq, hobstacle, Response.delivered?,
      Response.sendError?_of_isProduct hproduct hwhole, Response.status_of_isProduct hproduct]
    rfl

/-- **Failed requests change nothing.**  In every state, with or without a fault, a request that is
not confirmed to the client leaves the workspace and the counts of work as they were.  A request
that passes every check is answered by what is open: the operations on an open document fail exactly
if it is not open, the check on demand exactly if no document is active, and everything else
succeeds.  The exception is an answer that cannot be sent, since it names half of a surrogate
pair. -/
theorem failed_requests_change_nothing (settings : Settings) (s : Service) (call : Call)
    (hwhole : (s.handle settings call).response.namesHalf = false) :
    ((s.handle settings call).response.isConfirmed = false →
      s.session.SameWork (s.handle settings call).service.session) ∧
    ∀ command, Cleared settings s call command →
      (s.handle settings call).response.delivered?
        = some (command.dueStatus s.session.workspace) :=
  ⟨sameWork_handle hwhole, fun _ => delivered?_of_cleared hwhole⟩

/-- The focus on a document that is not open. -/
theorem focus_on_missing_changes_nothing :
    let request (path uri : String) : Call := { request :=
      { method := "POST", path := path, client := "a", payload := .value (.obj
        [("uri", .str uri), ("languageId", .str "sql"), ("text", .str "SELECT 1")]) } }
    let s := fresh.replay {} [request "/api/documents/open" "u"]
    let call := request "/api/documents/focus" "v"
    let h := s.handle {} call
    h.response.namesHalf = false ∧ h.response.isConfirmed = false ∧
      Cleared {} s call (.focusDocument "v") ∧
      s.session.SameWork h.service.session ∧ h.response.delivered? = some 404 := by
  intro request s call h
  have hwhole : h.response.namesHalf = false := by decide +kernel
  have hfailed : h.response.isConfirmed = false := by decide +kernel
  have hadmitted : Admitted {} call.request (.focusDocument "v") :=
    ⟨by decide +kernel, by decide +kernel, rfl, rfl, rfl⟩
  have hdue : Command.dueStatus s.session.workspace (.focusDocument "v") = 404 := by decide +kernel
  obtain ⟨hsame, hstatus⟩ := failed_requests_change_nothing {} s call hwhole
  clear_value s
  have hcleared : Cleared {} s call (.focusDocument "v") := ⟨rfl, hadmitted, rfl, fun _ h => by cases h⟩
  have hdelivered := hstatus _ hcleared
  rw [hdue] at hdelivered
  exact ⟨hwhole, hfailed, hcleared, hsame hfailed, hdelivered⟩

/-- A document whose language id is half of a surrogate pair: it is opened, and the client is not
told so. -/
theorem open_carried_out_without_answer :
    let body := "\x7b\"uri\":\"u\",\"languageId\":\"\\ud800\",\"text\":\"DISTINCT\"\x7d"
    let call : Call := { request :=
      { method := "POST", path := "/api/documents/open", client := "a",
        payload := .ofText none body } }
    let h := fresh.handle {} call
    h.response.isConfirmed = false ∧ h.response.delivered? = none ∧
      h.service.session.workspace.documents.get? "u"
        = some (.create "u" ⟨"\uFFFD", [(0, 0xD800)]⟩ 1 (some "DISTINCT")) ∧
      ¬ fresh.session.SameWork h.service.session := by
  intro body call h
  have hfailed : h.response.isConfirmed = false ∧ h.response.delivered? = none := by
    decide +kernel
  have hopen : h.service.session.workspace.documents.get? "u"
      = some (.create "u" ⟨"\uFFFD", [(0, 0xD800)]⟩ 1 (some "DISTINCT")) := by
    decide +kernel
  refine ⟨hfailed.1, hfailed.2, hopen, fun hsame => ?_⟩
  rw [hsame.workspace] at hopen
  cases hopen

end Service

end QueryLint
