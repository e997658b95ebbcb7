import QueryLint.Proofs.Catalog.Summary
import QueryLint.Proofs.Service.Diagnostics

/-!
# The check on demand and the published diagnostics

The check of the active document scans its text anew, in summary mode; the diagnostics that are
published for it come from an earlier scan in detailed mode.  They tell the same: what is published
is up to date in every state of the service, and the two modes see the same rules.
-/

namespace QueryLint

lemma eraseDups_eq_nil_iff {α : Type} [BEq α] [LawfulBEq α] {l : List α} :
    l.eraseDups = [] ↔ l = [] := by
  cases l <;> simp [List.eraseDups_cons]

/-- The messages of what is published for a document are the issues of its text. -/
lemma eraseDups_map_message (d : Document) :
    (((analyze d.text).map (toDiagnostic d)).map (·.message)).eraseDups = summarize d.text := by
  rw [List.map_map]
  exact eraseDups_map_analyze d.text (fun _ _ => rfl) nodup_messages

lemma map_toDiagnostic_eq_nil_iff (d : Document) :
    (analyze d.text).map (toDiagnostic d) = [] ↔ summarize d.text = [] := by
  rw [← eraseDups_map_message, eraseDups_eq_nil_iff]
  simp only [List.map_eq_nil_iff]

namespace Service

/-- **The check on demand agrees with the published diagnostics.**  In every state of the service
with an active document the check gives the notification of its text.  If the document is SQL, the
issues are the messages of what is published for it, each once and in the same order, and it is a
warning exactly if something is published.  The check leaves the workspace as it is. -/
theorem detect_agrees_with_published {settings : Settings} {state : Service}
    (h : Reachable settings state) (seconds : Float) {d : Document}
    (hd : state.session.workspace.activeDocument = some d) :
    let s := state.session
    let published := s.workspace.diagnostics.get d.uri
    ∃ o, s.detect seconds = .ok o ∧
      (∀ (t : Session) (seconds' : Float), o.value = (t.summarizeText seconds' d.text).value) ∧
      (d.isSql settings = true →
        o.value.issues = (published.map (·.message)).eraseDups ∧
        (o.value.level = .warning ↔ published ≠ []) ∧
        (o.value.level = .info ↔ published = [])) ∧
      o.session.workspace = s.workspace := by
  intro s published
  obtain ⟨o, ho, hvalue, hworkspace⟩ := Session.detect_of_active hd seconds
  refine ⟨o, ho, fun t seconds' => hvalue, fun hsql => ?_, hworkspace⟩
  have hup : s.workspace.UpToDate settings := upToDate_of_reachable h
  have hpublished : published = (analyze d.text).map (toDiagnostic d) := by
    obtain ⟨uri, -, hget⟩ := Option.bind_eq_some_iff.mp hd
    obtain rfl := hup.uri_eq uri d hget
    exact (hup.get_eq hget).trans (if_pos hsql)
  rw [hvalue, hpublished, eraseDups_map_message, Ne, map_toDiagnostic_eq_nil_iff]
  exact ⟨rfl, level_notify _⟩

/-- A document that was changed long after it got the focus. -/
theorem detect_agrees_after_change :
    let request (path text : String) : Call := { request :=
      { method := "POST", path := path, client := "a", payload := .value (.obj
        [("uri", .str "u"), ("languageId", .str "sql"), ("text", .str text)]) } }
    let calls := [request "/api/documents/open" "SELECT 1",
      request "/api/documents/change" "SELECT * FROM t", request "/api/summarize" "x"]
    let state := fresh.replay {} calls
    let s := state.session
    let d := Document.create "u" "sql" 2 (some "SELECT * FROM t")
    Reachable {} state ∧ s.workspace.activeDocument = some d ∧
      ∃ o, s.detect 0.5 = .ok o ∧
        o.value.issues = ((s.workspace.diagnostics.get "u").map (·.message)).eraseDups ∧
        o.session.workspace = s.workspace := by
  intro request calls state s d
  have hreachable : Reachable {} state := reachable_replay {} calls
  have hd : s.workspace.activeDocument = some d := by decide +kernel
  have hsql : d.isSql {} = true := by decide +kernel
  have h := detect_agrees_with_published hreachable 0.5 hd
  clear_value state
  obtain ⟨o, ho, -, hissues, hworkspace⟩ := h
  exact ⟨hreachable, hd, o, ho, (hissues hsql).1, hworkspace⟩

end Service

end QueryLint
