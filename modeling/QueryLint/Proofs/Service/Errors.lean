import QueryLint.Proofs.Metrics.Bookkeeping
import QueryLint.Proofs.Service.Answers

/-!
# What becomes of unforeseen failures

A failure that the program has no answer of its own for (`Failure.isUnforeseen`) can strike any
operation of a session.  Whatever the operation, the client gets an answer with the status 500, one
line is logged as an error, and the workspace stays as it was (`run_of_struck`).

The error is also counted, but not on every route: a failure to change a document and a failure of
the check on demand leave the metrics as they are (`failed_change_not_counted`).
-/

namespace QueryLint

/-- Whether a failure is neither a refusal nor about a document that is not open or not active. -/
def Failure.isUnforeseen : Failure → Bool
  | analysis _ | unexpected _ => true
  | documentNotOpen _ | noActiveDocument _ | refused _ => false

/-- The operation of a session that a command starts; some commands only look at the workspace. -/
def Command.operation? : Command → Option Operation
  | analyze _ => some .analyzeText
  | summarize _ => some .summarizeText
  | openDocument _ => some .onOpened
  | changeDocument _ => some .onChanged
  | detect => some .detect
  | focusDocument _ | closeDocument _ | diagnostics _ => none

namespace Failure

variable {f : Failure}

lemma status_of_isUnforeseen (h : f.isUnforeseen = true) : f.status = 500 := by
  cases f <;> first | rfl | cases h

/-- An unforeseen failure is logged in one line, as an error. -/
lemma log_of_isUnforeseen (h : f.isUnforeseen = true) (context : Option String) :
    (f.handle context).2.map LogEntry.level = [.error] := by
  have hstatus := status_of_isUnforeseen h
  cases f with
  | analysis m | unexpected m => simp [handle, entry, hstatus, LogEntry.level]
  | _ => cases h

end Failure

namespace Service

variable {settings : Settings} {s : Service} {call : Call} {command : Command} {fault : Fault}

/-- A fault that strikes the operation of a command is all that comes of the command. -/
theorem run_of_struck (settings : Settings) (seconds : Float) (s : Service)
    (htarget : command.operation? = some fault.target) :
    run settings seconds (some fault) s command = s.failed command.route fault.failure := by
  cases command with
  | focusDocument _ | closeDocument _ | diagnostics _ => cases htarget
  | _ =>
    simp only [Command.operation?, Option.some.injEq] at htarget
    simp only [run, unlessFault, ← htarget, if_true]
    rfl

lemma metrics_failed (s : Service) (route : GuardedRoute) (f : Failure) :
    (s.failed route f).service.session.metrics = match route.errorLabel? with
      | some label => s.session.metrics.recordError label
      | none => s.session.metrics := rfl

/-- **Unforeseen failures.**  If an unforeseen failure strikes the operation of a request that
passed every check, the client gets the status 500, one line is logged, as an error, and the
workspace stays as it was.  Analyzing and summarizing a text and opening a document count the error
once in each of the two books; changing a document and the check on demand do not count it. -/
theorem unforeseen_failure_answered_and_logged (hreaches : Reaches settings s call command)
    (hfault : call.fault = some fault) (htarget : command.operation? = some fault.target)
    (hkind : fault.failure.isUnforeseen = true) :
    let h := s.handle settings call
    let before := s.session.metrics
    let after := h.service.session.metrics
    h.response.delivered? = some 500 ∧
      h.log.map LogEntry.level = [.error] ∧
      h.service.session.workspace = s.session.workspace ∧
      (command.route ∈ [.analyze, .summarize, .openDocument] →
        after.totals.errorsOccurred = before.totals.errorsOccurred + 1 ∧
        after.errors.total = before.errors.total + 1) ∧
      (command.route ∈ [.changeDocument, .detect] → after = before) := by
  intro h before after
  set counted := (s.countRequest call.request command.route).1
  have hsession : counted.session = s.session := session_countRequest _ _
  have hh : h = counted.failed command.route fault.failure := by
    show s.handle settings call = _
    rw [handle_of_reaches hreaches, hfault, run_of_struck settings call.seconds counted htarget]
  have hafter : after = (counted.failed command.route fault.failure).service.session.metrics := by
    show h.service.session.metrics = _
    rw [hh]
  rw [metrics_failed, hsession] at hafter
  refine ⟨?_, ?_, ?_, fun hroute => ?_, fun hroute => ?_⟩
  · rw [hh, delivered?_failed, Failure.status_of_isUnforeseen hkind]
  · rw [hh]
    exact Failure.log_of_isUnforeseen hkind _
  · rw [hh, ← hsession]
    rfl
  · obtain ⟨label, hlabel⟩ : ∃ label, command.route.errorLabel? = some label := by
      revert hroute
      cases command.route <;> simp [GuardedRoute.errorLabel?]
    simp only [hlabel] at hafter
    rw [hafter]
    exact ⟨rfl, Series.total_bump _ _⟩
  · have hlabel : command.route.errorLabel? = none := by
      revert hroute
      cases command.route <;> simp [GuardedRoute.errorLabel?]
    rw [hafter, hlabel]

/-- An unforeseen failure to open a document. -/
theorem failed_open_counted :
    let call : Call := { fault := some ⟨.onOpened, .unexpected "boom"⟩, request :=
      { method := "POST", path := "/api/documents/open", client := "a",
        payload := .value (.obj [("uri", .str "u"), ("languageId", .str "sql")]) } }
    let h := fresh.handle {} call
    Reaches {} fresh call (.openDocument ⟨"u", "sql", "", true⟩) ∧
      h.response.delivered? = some 500 ∧ h.service.session.metrics.totals.errorsOccurred = 1 := by
  intro call h
  have hadmitted : Admitted {} call.request (.openDocument ⟨"u", "sql", "", true⟩) :=
    ⟨by decide +kernel, by decide +kernel, rfl, rfl, rfl⟩
  have hreaches : Reaches {} fresh call (.openDocument ⟨"u", "sql", "", true⟩) :=
    ⟨hadmitted, by decide +kernel, fun text htext => by cases htext; decide⟩
  obtain ⟨hstatus, -, -, hcounted, -⟩ :=
    unforeseen_failure_answered_and_logged hreaches rfl rfl rfl
  exact ⟨hreaches, hstatus, (hcounted (by decide)).1⟩

/-- An unforeseen failure to change a document: it passes every check and is answered and logged as
such, but no error is counted. -/
theorem failed_change_not_counted :
    let call : Call := { fault := some ⟨.onChanged, .unexpected "boom"⟩, request :=
      { method := "POST", path := "/api/documents/change", client := "a",
        payload := .value (.obj [("uri", .str "u"), ("text", .str "x")]) } }
    let h := fresh.handle {} call
    Reaches {} fresh call (.changeDocument ⟨"u", "x"⟩) ∧ h.response.delivered? = some 500 ∧
      h.service.session.metrics.totals.errorsOccurred
        ≠ fresh.session.metrics.totals.errorsOccurred + 1 ∧
      h.service.session.metrics.errors.total ≠ fresh.session.metrics.errors.total + 1 := by
  intro call h
  have hadmitted : Admitted {} call.request (.changeDocument ⟨"u", "x"⟩) :=
    ⟨by decide +kernel, by decide +kernel, rfl, rfl, rfl⟩
  have hreaches : Reaches {} fresh call (.changeDocument ⟨"u", "x"⟩) :=
    ⟨hadmitted, by decide +kernel, fun text htext => by cases htext; decide⟩
  exact ⟨hreaches, by decide +kernel, by decide +kernel, by decide +kernel⟩

end Service

end QueryLint
