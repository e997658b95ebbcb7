import QueryLint.Proofs.Service.Reachable
import QueryLint.Proofs.Session.Effects

/-!
# Diagnostics are never stale

`Workspace.UpToDate` ties together the texts and language ids of the open documents and what is
published for them: exactly the SQL documents have an entry, and the entry belongs to the current
text.  Every operation of the editor keeps it (`Session.upToDate_after`), so it holds in every state
of the service (`Service.upToDate_of_reachable`), and the reports on documents are always current.
-/

namespace QueryLint

/-- Every document stands under its URI, and what is published belongs to its current text and
language. -/
structure Workspace.UpToDate (settings : Settings) (w : Workspace) : Prop where
  uri_eq : ∀ uri d, w.documents.get? uri = some d → d.uri = uri
  entries_eq : ∀ uri, w.diagnostics.entries.get? uri
    = (w.documents.get? uri).bind (Document.published? settings)

namespace Workspace

variable {settings : Settings} {w w' : Workspace} {uri : String} {d : Document}

lemma UpToDate.contains_iff (h : w.UpToDate settings) :
    w.diagnostics.contains uri = true ↔
      ∃ d, w.documents.get? uri = some d ∧ d.isSql settings = true := by
  rw [DiagnosticCollection.contains, ← Table.isSome_get?, h.entries_eq]
  cases w.documents.get? uri with
  | none => simp
  | some d => cases hd : d.isSql settings <;> simp [Document.published?, hd]

lemma UpToDate.get_eq (h : w.UpToDate settings) (hd : w.documents.get? uri = some d) :
    w.diagnostics.get uri
      = if d.isSql settings then (analyze d.text).map (toDiagnostic d) else [] := by
  rw [DiagnosticCollection.get, h.entries_eq, hd, Option.bind_some, Document.published?]
  split <;> rfl

/-! ### Failing operations -/

lemma changeDocument_eq_error {text : Option String} {f : Failure}
    (h : w.changeDocument uri text = .error f) : w.find uri = .error f := by
  unfold changeDocument at h
  cases hf : w.find uri <;> rw [hf] at h <;> cases h
  rfl

lemma focus_eq_error {f : Failure} (h : w.focus uri = .error f) : w.find uri = .error f := by
  unfold focus at h
  cases hf : w.find uri <;> rw [hf] at h <;> cases h
  rfl

lemma status_of_find_eq_error {f : Failure} (h : w.find uri = .error f) : f.status = 404 := by
  obtain ⟨-, rfl⟩ := find_eq_error_iff.mp h
  rfl

/-! ### What storing and closing a document keep -/

lemma UpToDate.stored (h : w.UpToDate settings) (hd : d.uri = uri)
    (hdocuments : w'.documents = w.documents.insert uri d)
    (hdiagnostics : w'.diagnostics = w.diagnostics.update uri (d.published? settings)) :
    w'.UpToDate settings where
  uri_eq := by
    rw [hdocuments]
    exact Table.forall_get?_insert h.uri_eq hd
  entries_eq uri' := by
    rw [hdiagnostics, hdocuments, DiagnosticCollection.get?_update, Table.get?_insert]
    split
    · rfl
    · exact h.entries_eq uri'

lemma UpToDate.closed (h : w.UpToDate settings) (hdocuments : w'.documents = w.documents.erase uri)
    (hdiagnostics : w'.diagnostics = w.diagnostics.update uri none) : w'.UpToDate settings where
  uri_eq := by
    rw [hdocuments]
    exact Table.forall_get?_erase h.uri_eq
  entries_eq uri' := by
    rw [hdiagnostics, hdocuments, DiagnosticCollection.get?_update, Table.get?_erase]
    split
    · rfl
    · exact h.entries_eq uri'

end Workspace

namespace Session

variable {settings : Settings} {s : Session}

open Workspace

/-! ### One operation of the editor -/

lemma status_of_onChanged_eq_error {seconds : Float} {uri : String} {text : Option String}
    {f : Failure} (h : s.onChanged settings seconds uri text = .error f) : f.status = 404 := by
  unfold onChanged at h
  cases hc : s.workspace.changeDocument uri text <;> rw [hc] at h <;> cases h
  exact status_of_find_eq_error (changeDocument_eq_error hc)

/-- **One operation** keeps a workspace up to date, whether it succeeds or not. -/
theorem upToDate_after (h : s.workspace.UpToDate settings) (step : Action × Float) :
    (s.after settings step).workspace.UpToDate settings := by
  cases effect_after settings s step.1 step.2 with
  | idle _ hdocuments hdiagnostics =>
    refine ⟨?_, ?_⟩ <;> rw [hdocuments]
    · exact h.uri_eq
    · rw [hdiagnostics]
      exact h.entries_eq
  | stored uri d hstores hdocuments hdiagnostics =>
    have hd : d.uri = uri := hstores.uri_eq h.uri_eq
    rw [hd] at hdiagnostics
    exact h.stored hd hdocuments hdiagnostics
  | closed uri _ _ hdocuments hdiagnostics => exact h.closed hdocuments hdiagnostics

end Session

/-! ### States of the service -/

lemma Workspace.upToDate_new {settings : Settings} : (Workspace.new none).UpToDate settings :=
  ⟨fun _ _ h => (by cases h), fun _ => rfl⟩

/-- **Every state** of the service is up to date. -/
theorem Service.upToDate_of_reachable {settings : Settings} {s : Service}
    (h : Reachable settings s) : s.session.workspace.UpToDate settings :=
  h.workspace_induction Workspace.upToDate_new fun _ _ _ _ _ _ hup => Session.upToDate_after hup _

/-! ### Reports on documents -/

/-- The document on which the answer to a command reports. -/
def Command.reported? : Command → Option String
  | openDocument r => some r.uri
  | changeDocument r => some r.uri
  | focusDocument uri => some uri
  | diagnostics uri => some uri
  | _ => none

/-- Whether the answers of a route report on a document. -/
def GuardedRoute.isReport : GuardedRoute → Bool
  | openDocument | changeDocument | focusDocument | diagnostics => true
  | _ => false

/-- The answer is the report on an open document as the workspace holds it after the request. -/
def Handled.Reports (h : Handled) (uri : String) : Prop :=
  ∃ d, h.service.session.workspace.documents.get? uri = some d ∧
    h.response = .document
      ⟨uri, d.languageId, d.version, h.service.session.workspace.diagnostics.get uri⟩

lemma Command.reported?_of_isReport {command : Command} (h : command.route.isReport = true) :
    ∃ uri, command.reported? = some uri := by
  cases command <;> first | exact ⟨_, rfl⟩ | cases h

namespace Service

variable {settings : Settings} {s : Service} {uri : String}

lemma documentReport_eq_ok {w : Workspace} {d : Document} (h : w.documents.get? uri = some d) :
    documentReport w uri
      = .ok (.document ⟨uri, d.languageId, d.version, w.diagnostics.get uri⟩) := by
  rw [documentReport, Workspace.find_eq_ok_iff.mpr h]
  rfl

lemma documentReport_eq_error {w : Workspace} (h : w.documents.get? uri = none) :
    documentReport w uri = .error (.documentNotOpen uri) := by
  rw [documentReport, Workspace.find_eq_error_iff.mpr ⟨h, rfl⟩]
  rfl

lemma reports_finish {α : Type} {route : GuardedRoute} {outcome : Except Failure (Outcome α)}
    (hfail : ∀ f, outcome = .error f → f.status ≠ 200)
    (hstatus : (s.finish route outcome fun o =>
      documentReport o.session.workspace uri).response.status = 200) :
    (s.finish route outcome fun o => documentReport o.session.workspace uri).Reports uri := by
  cases outcome with
  | error f =>
    simp only [finish, status_failed] at hstatus
    exact absurd hstatus (hfail f rfl)
  | ok o =>
    cases hd : o.session.workspace.documents.get? uri with
    | none =>
      simp only [finish, documentReport_eq_error hd, status_failed] at hstatus
      cases hstatus
    | some d =>
      simp only [finish, documentReport_eq_ok hd]
      exact ⟨d, hd, rfl⟩

/-- An operation fails as it does by itself, or with the fault that hits it. -/
lemma status_of_unlessFault_eq_error {α : Type} {fault : Option Fault} {target : Operation}
    {outcome : Except Failure (Outcome α)} {f : Failure}
    (hfault : ∀ f, fault = some f → f.failure.status ≠ 200)
    (hfail : ∀ f, outcome = .error f → f.status ≠ 200)
    (h : unlessFault fault target outcome = .error f) : f.status ≠ 200 := by
  rcases unlessFault_cases fault target outcome with he | ⟨f', hf', he⟩
  · exact hfail f (he.symm.trans h)
  · rw [he, Except.error.injEq] at h
    exact h ▸ hfault f' hf'

theorem reports_run {seconds : Float} {fault : Option Fault} {command : Command}
    (hcommand : command.reported? = some uri)
    (hfault : ∀ f, fault = some f → f.failure.status ≠ 200)
    (hstatus : (run settings seconds fault s command).response.status = 200) :
    (run settings seconds fault s command).Reports uri := by
  cases command with
  | openDocument r =>
    cases hcommand
    refine reports_finish (fun f hf => ?_) hstatus
    exact status_of_unlessFault_eq_error hfault (fun f hf => by cases hf) hf
  | changeDocument r =>
    cases hcommand
    refine reports_finish (fun f hf => ?_) hstatus
    refine status_of_unlessFault_eq_error hfault (fun f hf => ?_) hf
    rw [Session.status_of_onChanged_eq_error hf]
    decide
  | focusDocument uri =>
    cases hcommand
    refine reports_finish (fun f hf => ?_) hstatus
    have hfocus := except_map_eq_error.mp (except_map_eq_error.mp hf)
    rw [Workspace.status_of_find_eq_error (Workspace.focus_eq_error hfocus)]
    decide
  | diagnostics uri =>
    cases hcommand
    exact reports_finish (fun f hf => by cases hf) hstatus
  | _ => cases hcommand

/-- A successful answer of a route that reports on a document is such a report. -/
theorem reports_handle {call : Call} {route : GuardedRoute} (hreport : route.isReport = true)
    (hpath : Route.ofPath? call.request.path = some (.guarded route))
    (hfault : ∀ f, call.fault = some f → f.failure.status ≠ 200)
    (hstatus : (s.handle settings call).response.status = 200) :
    ∃ command uri, Command.ofRequest route call.request = .ok command ∧
      command.reported? = some uri ∧ (s.handle settings call).Reports uri := by
  cases handling settings s call with
  | page hpage _ _ => exact absurd hpath (hpage route)
  | rejected _ hr =>
    simp [Response.isSuccess, hstatus] at hr
  | admitted command hadm h =>
    obtain rfl : command.route = route := by
      have := hadm.path.symm.trans hpath
      simpa using this
    obtain ⟨uri, huri⟩ := Command.reported?_of_isReport hreport
    refine ⟨command, uri, hadm.form, huri, ?_⟩
    cases accepting settings s call command with
    | tooMany _ h' =>
      rw [h, h'] at hstatus
      cases hstatus
    | tooLong _ _ _ _ hlength h' =>
      rw [h, h'] at hstatus
      exact absurd ((status_of_checkLength_eq_error hlength).symm.trans hstatus) (by decide)
    | run _ _ h' =>
      rw [h, h'] at hstatus ⊢
      exact reports_run huri hfault hstatus

/-- **Diagnostics are never stale.**  In every state of the service, so after every sequence of
requests, exactly the open SQL documents have published diagnostics, and these are the diagnostics
of their current texts; every other open document has none.  So every successful answer that reports
on a document shows its language id, its version and the diagnostics of its current text; only a
fault can answer with its own text under the status of a success. -/
theorem diagnostics_never_stale (h : Reachable settings s) :
    let w := s.session.workspace
    (∀ uri, w.diagnostics.contains uri = true ↔
      ∃ d, w.documents.get? uri = some d ∧ d.isSql settings = true) ∧
    (∀ uri d, w.documents.get? uri = some d → d.uri = uri ∧
      w.diagnostics.get d.uri
        = if d.isSql settings then (analyze d.text).map (toDiagnostic d) else []) ∧
    ∀ call route, GuardedRoute.isReport route = true →
      Route.ofPath? call.request.path = some (.guarded route) →
      (∀ f, call.fault = some f → f.failure.status ≠ 200) →
      (s.handle settings call).response.status = 200 →
      ∃ command uri d, Command.ofRequest route call.request = .ok command ∧
        command.reported? = some uri ∧
        (s.handle settings call).service.session.workspace.documents.get? uri = some d ∧
        (s.handle settings call).response = .document ⟨uri, d.languageId, d.version,
          if d.isSql settings then (analyze d.text).map (toDiagnostic d) else []⟩ := by
  intro w
  have hup : w.UpToDate settings := upToDate_of_reachable h
  refine ⟨fun uri => hup.contains_iff, fun uri d hd => ?_, ?_⟩
  · have huri := hup.uri_eq uri d hd
    exact ⟨huri, by rw [huri, hup.get_eq hd]⟩
  · intro call route hreport hpath hfault hstatus
    obtain ⟨command, uri, hform, huri, d, hd, hresponse⟩ :=
      reports_handle hreport hpath hfault hstatus
    rw [(upToDate_of_reachable (h.handle call)).get_eq hd] at hresponse
    exact ⟨command, uri, d, hform, huri, hd, hresponse⟩

/-- A document that was SQL is opened again as something else: its report shows that. -/
theorem reopened_document_not_stale :
    let opening (languageId : String) : Call := { request :=
      { method := "POST", path := "/api/documents/open", client := "a", payload := .value (.obj
        [("uri", .str "u"), ("languageId", .str languageId), ("text", .str "SELECT * FROM t")]) } }
    let asking : Call := { request :=
      { method := "GET", path := "/api/diagnostics", query := [("uri", "u")], client := "a" } }
    let s := fresh.replay {} [opening "sql", opening "text"]
    Reachable {} s ∧ GuardedRoute.isReport .diagnostics = true ∧ asking.fault = none ∧
      (s.handle {} asking).response.status = 200 ∧
      ∃ d, (s.handle {} asking).service.session.workspace.documents.get? "u" = some d ∧
        (s.handle {} asking).response = .document ⟨"u", d.languageId, d.version,
          if d.isSql {} then (analyze d.text).map (toDiagnostic d) else []⟩ := by
  intro opening asking s
  have hreachable : Reachable {} s := reachable_replay {} [opening "sql", opening "text"]
  have hstatus : (s.handle {} asking).response.status = 200 := by decide +kernel
  obtain ⟨-, -, h⟩ := diagnostics_never_stale hreachable
  clear_value s
  obtain ⟨command, uri, d, hform, huri, hd, hresponse⟩ :=
    h asking .diagnostics rfl (by decide) (fun f hf => by cases hf) hstatus
  obtain rfl : Command.diagnostics "u" = command := by cases hform; rfl
  cases huri
  exact ⟨hreachable, rfl, rfl, hstatus, d, hd, hresponse⟩

end Service

end QueryLint
