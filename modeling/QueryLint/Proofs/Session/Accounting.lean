import Mathlib.Algebra.Ring.Nat
import Mathlib.Data.List.Nodup
import QueryLint.Proofs.Catalog.Summary
import QueryLint.Proofs.Metrics.Bookkeeping
import QueryLint.Proofs.Session.Effects

/-!
# The metrics account for the work done

What the metrics say can be read off from what the operations gave back.  An *attempt* is an
operation with its outcome, `Attempt.work?` says what it counts as, and `Accounts` compares the
metrics before and after some attempts with these attempts alone: one operation accounts for itself
(`accounts_perform`), and the accounts of histories add up (`Accounts.append`, `accounts_replay`).

The names of rules are counted in two ways, by finding in detailed mode and by message in summary
mode; `count_rule_analyze` and `count_ruleName?_summarize` say that both count the same rule.
-/

namespace QueryLint

/-! ### The rules behind findings and messages -/

section

variable {r r' : Rule}

lemma code_eq_iff_of_mem (hr : r ∈ catalog) (hr' : r' ∈ catalog) :
    r'.code = r.code ↔ r'.name = r.name := by
  have hcodes : (catalog.map Rule.code).Nodup := by decide +kernel
  constructor <;> intro h
  · rw [List.inj_on_of_nodup_map hcodes hr' hr h]
  · rw [List.inj_on_of_nodup_map nodup_names hr' hr h]

/-- Detailed mode records a rule as often as it reports a finding of it. -/
theorem count_rule_analyze (hr : r ∈ catalog) (text : String) :
    ((analyze text).map (·.rule)).count r.name = (analyze text).countP (·.code = r.code) := by
  rw [List.count, List.countP_map]
  apply List.countP_congr
  intro f hf
  obtain ⟨r', hr', hf⟩ := List.mem_flatMap.mp hf
  obtain ⟨s, -, rfl⟩ := List.mem_map.mp hf
  simp [Rule.finding, code_eq_iff_of_mem hr hr']

/-- Summary mode records a rule once if its message is among the issues, and not otherwise. -/
theorem count_ruleName?_summarize (hr : r ∈ catalog) (text : String) :
    ((summarize text).filterMap ruleName?).count r.name
      = if r.message ∈ summarize text then 1 else 0 := by
  have hfired : (firedRules text).Sublist catalog := List.filter_sublist
  have hnodup : ((firedRules text).map Rule.name).Nodup := nodup_names.sublist (hfired.map _)
  have hmem : r.name ∈ (firedRules text).map Rule.name ↔ r.message ∈ summarize text := by
    simp only [summarize, List.mem_map]
    constructor
    · rintro ⟨r', hr', heq⟩
      exact ⟨r', hr', by rw [List.inj_on_of_nodup_map nodup_names (hfired.subset hr') hr heq]⟩
    · rintro ⟨r', hr', heq⟩
      exact ⟨r', hr', by rw [List.inj_on_of_nodup_map nodup_messages (hfired.subset hr') hr heq]⟩
  rw [filterMap_ruleName?_summarize, hnodup.count]
  simp only [hmem]

lemma length_filterMap_ruleName? (text : String) :
    ((summarize text).filterMap ruleName?).length = (summarize text).length := by
  rw [filterMap_ruleName?_summarize, summarize, List.length_map, List.length_map]

end

/-! ### What was given back -/

/-- How many lines of the stopwatch an operation logged. -/
def Outcome.timings {α : Type} (o : Outcome α) : Nat :=
  o.log.countP (·.source = .stopwatch)

namespace Session

/-- How many findings, diagnostics or issues a result lists. -/
def Result.size : Result → Nat
  | findings fs => fs.length
  | diagnostics ds => ds.length
  | notification n => n.issues.length
  | document _ | nothing => 0

/-- How many findings or diagnostics of a rule a result lists; a notification counts once if it lists
the message of the rule. -/
def Result.mentions (r : Rule) : Result → Nat
  | findings fs => fs.countP (·.code = r.code)
  | diagnostics ds => ds.countP (·.code = r.code)
  | notification n => if r.message ∈ n.issues then 1 else 0
  | document _ | nothing => 0

/-- An operation and what came of it. -/
abbrev Attempt := Action × Except Failure (Outcome Result)

/-- What an operation counts as. -/
inductive Work where
  | analysis
  | summary
  | skip
deriving DecidableEq, Repr

/-- What an attempt counts as.  Opening or changing a document is an analysis if the document is SQL
after it, and skips the document otherwise; what fails counts as nothing. -/
def Attempt.work? (settings : Settings) : Attempt → Option Work
  | (.analyzeText _, _) => some .analysis
  | (.summarizeText _, _) | (.detect, .ok _) => some .summary
  | (.opened uri _ _ _, .ok o) | (.changed uri _, .ok o) =>
    (o.session.workspace.documents.get? uri).map fun d =>
      if d.isSql settings then .analysis else .skip
  | (.focus _, _) | (.close _, _) | (_, .error _) => none

/-- The operations of a history, each with what came of it. -/
def attempts (s : Session) (settings : Settings) (history : List (Action × Float)) :
    List Attempt :=
  (history.map Prod.fst).zip (s.outcomes settings history)

/-- The outcomes of the attempts that did not fail. -/
def given (attempts : List Attempt) : List (Outcome Result) :=
  attempts.filterMap fun attempt => attempt.2.toOption

/-- The metrics have changed by what the attempts amount to. -/
structure Accounts (settings : Settings) (attempts : List Attempt) (m m' : Metrics) : Prop where
  analyzed : m'.totals.documentsAnalyzed
    = m.totals.documentsAnalyzed + attempts.countP (·.work? settings = some .analysis)
  summarized : m'.totals.summariesGenerated
    = m.totals.summariesGenerated + attempts.countP (·.work? settings = some .summary)
  skipped : m'.totals.documentsSkipped
    = m.totals.documentsSkipped + attempts.countP (·.work? settings = some .skip)
  reported : m'.totals.findingsReported
    = m.totals.findingsReported + ((given attempts).map (·.value.size)).sum
  byRule : ∀ r ∈ catalog, m'.findings.count r.name
    = m.findings.count r.name + ((given attempts).map (·.value.mentions r)).sum
  timed : m'.totals.documentsAnalyzed + m'.totals.summariesGenerated
    = m.totals.documentsAnalyzed + m.totals.summariesGenerated
      + ((given attempts).map Outcome.timings).sum

variable {settings : Settings} {s : Session} {m m' m'' : Metrics} {attempt : Attempt}
  {o : Outcome Result} {d : Document} {uri : String}

lemma given_append (before after : List Attempt) :
    given (before ++ after) = given before ++ given after := List.filterMap_append

lemma given_singleton (h : attempt.2 = .ok o) : given [attempt] = [o] := by
  rw [given, List.filterMap_cons_some (by rw [h]; rfl), List.filterMap_nil]

lemma accounts_nil : Accounts settings [] m m where
  analyzed := rfl
  summarized := rfl
  skipped := rfl
  reported := rfl
  byRule _ _ := rfl
  timed := rfl

theorem Accounts.append {before after : List Attempt} (h : Accounts settings before m m')
    (h' : Accounts settings after m' m'') : Accounts settings (before ++ after) m m'' where
  analyzed := by rw [h'.analyzed, h.analyzed, List.countP_append, Nat.add_assoc]
  summarized := by rw [h'.summarized, h.summarized, List.countP_append, Nat.add_assoc]
  skipped := by rw [h'.skipped, h.skipped, List.countP_append, Nat.add_assoc]
  reported := by
    rw [h'.reported, h.reported, given_append, List.map_append, List.sum_append, Nat.add_assoc]
  byRule r hr := by
    rw [h'.byRule r hr, h.byRule r hr, given_append, List.map_append, List.sum_append,
      Nat.add_assoc]
  timed := by
    rw [h'.timed, h.timed, given_append, List.map_append, List.sum_append, Nat.add_assoc]

/-! ### One entry of the metrics -/

/-- An attempt that evaluated the catalog and recorded what it gave back. -/
lemma accounts_of_recordAnalysis {mode : String} {hits : List String} (seconds : Float)
    (ho : attempt.2 = .ok o)
    (hwork : attempt.work? settings = some (if mode = summaryMode then .summary else .analysis))
    (hsize : o.value.size = hits.length)
    (hrules : ∀ r ∈ catalog, o.value.mentions r = hits.count r.name) (htimings : o.timings = 1) :
    Accounts settings [attempt] m (m.recordAnalysis seconds mode hits) := by
  have htotals := Metrics.totals_recordAnalysis (m := m) seconds mode hits
  refine ⟨?_, ?_, ?_, ?_, fun r hr => ?_, ?_⟩
  · rw [htotals, List.countP_singleton, hwork]
    by_cases hmode : mode = summaryMode <;> simp [hmode]
  · rw [htotals, List.countP_singleton, hwork]
    by_cases hmode : mode = summaryMode <;> simp [hmode]
  · rw [htotals, List.countP_singleton, hwork]
    by_cases hmode : mode = summaryMode <;> simp [hmode]
  · rw [htotals, given_singleton ho]
    simp [hsize]
  · have hcount : (m.recordAnalysis seconds mode hits).findings.count r.name
        = m.findings.count r.name + hits.count r.name :=
      Series.count_foldl_bump _ _ _
    rw [hcount, given_singleton ho]
    simp [hrules r hr]
  · rw [htotals, given_singleton ho]
    by_cases hmode : mode = summaryMode
    · simp only [hmode, if_true, List.map_singleton, List.sum_singleton, htimings]
      omega
    · simp only [hmode, if_false, List.map_singleton, List.sum_singleton, htimings]
      omega

/-- An attempt that passed over a document. -/
lemma accounts_of_recordSkip (ho : attempt.2 = .ok o) (hwork : attempt.work? settings = some .skip)
    (hvalue : o.value = .diagnostics []) (htimings : o.timings = 0) :
    Accounts settings [attempt] m m.recordSkip := by
  constructor <;>
    simp [Metrics.recordSkip, hwork, given_singleton ho, hvalue, htimings,
      Result.size, Result.mentions]

/-- An attempt that recorded nothing, since it failed or has nothing to do with the catalog. -/
lemma accounts_of_idle (hwork : attempt.work? settings = none)
    (hidle : ∀ o, attempt.2 = .ok o → o.value.size = 0 ∧ (∀ r, o.value.mentions r = 0) ∧ o.log = []) :
    Accounts settings [attempt] m m := by
  cases ho : attempt.2 with
  | error f =>
    have hgiven : given [attempt] = [] := by
      rw [given, List.filterMap_cons_none (by rw [ho]; rfl), List.filterMap_nil]
    constructor <;> simp [hwork, hgiven]
  | ok o =>
    obtain ⟨hsize, hmentions, hlog⟩ := hidle o ho
    constructor <;>
      simp [hwork, given_singleton ho, hsize, hmentions, Outcome.timings, hlog]

/-! ### One operation -/

/-- Diagnostics are of the rules that the findings behind them are of. -/
lemma map_rule_diagnose (d : Document) :
    (diagnose d).map (·.rule) = (analyze d.text).map (·.rule) := by
  rw [diagnose, List.map_map]
  rfl

lemma refresh_of_sql (t : Session) (hsql : d.isSql settings = true) (seconds : Float) :
    t.refresh settings seconds d
      = { session :=
            { workspace := { t.workspace with
                diagnostics := t.workspace.diagnostics.set d.uri (diagnose d) }
              metrics := t.metrics.recordAnalysis seconds detailedMode
                ((diagnose d).map (·.rule)) }
          value := diagnose d
          log := [.timing ("report_diagnostics[" ++ d.uri ++ "]")] } := by
  simp only [refresh, reportDiagnostics, hsql, if_true, List.nil_append]

lemma refresh_of_not_sql (t : Session) (hsql : d.isSql settings = false) (seconds : Float) :
    t.refresh settings seconds d
      = { session :=
            { workspace := { t.workspace with
                diagnostics := t.workspace.diagnostics.delete d.uri }
              metrics := t.metrics.recordSkip }
          value := []
          log := [] } := by
  simp only [refresh, hsql, Bool.false_eq_true, if_false]

/-- Publishing diagnostics: an analysis of a document that is SQL, and a skip of any other. -/
lemma accounts_of_refresh (t : Session) (d : Document) (seconds : Float) {entry : LogEntry}
    (hentry : entry.source ≠ .stopwatch) (ho : attempt.2 = .ok o)
    (hwork : attempt.work? settings = some (if d.isSql settings then .analysis else .skip))
    (hvalue : o.value = .diagnostics (t.refresh settings seconds d).value)
    (hlog : o.log = (t.refresh settings seconds d).log ++ [entry]) :
    Accounts settings [attempt] t.metrics (t.refresh settings seconds d).session.metrics := by
  have htimings : o.timings = (t.refresh settings seconds d).timings := by
    rw [Outcome.timings, Outcome.timings, hlog, List.countP_append, List.countP_singleton]
    simp [hentry]
  cases hsql : d.isSql settings with
  | true =>
    rw [refresh_of_sql t hsql] at hvalue htimings ⊢
    refine accounts_of_recordAnalysis seconds ho ?_ ?_ (fun r hr => ?_) ?_
    · rw [hwork, hsql]
      rfl
    · rw [hvalue, List.length_map]
      rfl
    · rw [hvalue, map_rule_diagnose, count_rule_analyze hr, Result.mentions, diagnose,
        List.countP_map]
      rfl
    · rw [htimings]
      rfl
  | false =>
    rw [refresh_of_not_sql t hsql] at hvalue htimings ⊢
    exact accounts_of_recordSkip ho (by rw [hwork, hsql]; rfl) hvalue htimings

/-- An operation that moves the focus or closes a document evaluates nothing. -/
lemma accounts_of_metrics_eq {a : Action} {seconds : Float}
    (hwork : Attempt.work? settings (a, s.perform settings seconds a) = none)
    (hidle : ∀ o, s.perform settings seconds a = .ok o → o.session.metrics = s.metrics ∧
      o.value.size = 0 ∧ (∀ r, o.value.mentions r = 0) ∧ o.log = []) :
    Accounts settings [(a, s.perform settings seconds a)] s.metrics
      (s.after settings (a, seconds)).metrics := by
  have hmetrics : (s.after settings (a, seconds)).metrics = s.metrics := by
    unfold after
    cases ho : s.perform settings seconds a with
    | error f => rfl
    | ok o => exact (hidle o ho).1
  rw [hmetrics]
  exact accounts_of_idle hwork fun o ho => (hidle o ho).2

/-- A refused operation evaluates nothing. -/
lemma accounts_of_fail {a : Action} {seconds : Float} {f : Failure}
    (hfail : s.perform settings seconds a = .error f)
    (hwork : Attempt.work? settings (a, .error f) = none) :
    Accounts settings [(a, s.perform settings seconds a)] s.metrics
      (s.after settings (a, seconds)).metrics := by
  refine accounts_of_metrics_eq (by rw [hfail, hwork]) fun o ho => ?_
  rw [hfail] at ho
  cases ho

lemma accounts_summarizeText (s : Session) (seconds : Float) (text : String)
    (hwork : attempt.work? settings = some .summary) (ho : attempt.2 = .ok o)
    (hvalue : o.value = .notification (notify (summarize text))) (htimings : o.timings = 1) :
    Accounts settings [attempt] s.metrics (s.summarizeText seconds text).session.metrics := by
  refine accounts_of_recordAnalysis seconds ho hwork ?_ (fun r hr => ?_) htimings
  · rw [hvalue, length_filterMap_ruleName?]
    rfl
  · rw [hvalue, count_ruleName?_summarize hr]
    rfl

lemma accounts_detect (settings : Settings) (s : Session) (seconds : Float) :
    Accounts settings [(.detect, s.perform settings seconds .detect)] s.metrics
      (s.after settings (.detect, seconds)).metrics := by
  cases hd : s.workspace.activeDocument with
  | none =>
    have hfail : s.perform settings seconds .detect
        = .error (.noActiveDocument Failure.noActiveMessage) := by
      rw [perform, detect_of_not_active hd]
      rfl
    exact accounts_of_fail hfail rfl
  | some d =>
    -- one scan in summary mode, and the event behind its line of the stopwatch
    have hrun : ∃ entry, entry.source ≠ .stopwatch ∧ s.perform settings seconds .detect
        = .ok ⟨(s.summarizeText seconds d.text).session, .notification (notify (summarize d.text)),
          [.timing "summarize_text", entry]⟩ := by
      rw [perform, detect, hd]
      exact ⟨_, by simp [Event.entry, LogEntry.source], rfl⟩
    obtain ⟨entry, hentry, hrun⟩ := hrun
    have hafter : (s.after settings (.detect, seconds)).metrics
        = (s.summarizeText seconds d.text).session.metrics := by
      rw [after, hrun]
    rw [hafter, hrun]
    have hsource : (LogEntry.timing "summarize_text").source = .stopwatch := rfl
    refine accounts_summarizeText s seconds d.text rfl rfl rfl ?_
    simp [Outcome.timings, hentry, hsource]

lemma accounts_opened (settings : Settings) (s : Session) (seconds : Float) (uri : String)
    (languageId : Json.Text) (text : Option String) (activate : Bool) :
    Accounts settings
      [(.opened uri languageId text activate,
        s.perform settings seconds (.opened uri languageId text activate))] s.metrics
      (s.after settings (.opened uri languageId text activate, seconds)).metrics := by
  obtain ⟨workspace, d, hopen, hget⟩ : ∃ workspace d,
      s.workspace.openDocument uri languageId text activate = (workspace, d) ∧
        workspace.documents.get? uri = some d :=
    ⟨_, _, rfl, Table.get?_insert_self _ _ _⟩
  obtain ⟨entry, hentry, hrun⟩ : ∃ entry : LogEntry, entry.source ≠ .stopwatch ∧
      s.onOpened settings seconds uri languageId text activate
        = { refresh ⟨workspace, s.metrics⟩ settings seconds d with
            log := (refresh ⟨workspace, s.metrics⟩ settings seconds d).log ++ [entry] } := by
    rw [onOpened, hopen]
    exact ⟨_, by simp [Event.entry, LogEntry.source], rfl⟩
  have hafter : (s.after settings (.opened uri languageId text activate, seconds)).metrics
      = (refresh ⟨workspace, s.metrics⟩ settings seconds d).session.metrics := by
    rw [after, perform, hrun]
    rfl
  rw [hafter, perform, hrun]
  refine accounts_of_refresh ⟨workspace, s.metrics⟩ d seconds hentry rfl ?_ rfl rfl
  rw [Attempt.work?, Outcome.map, documents_refresh, hget]
  rfl

lemma accounts_changed (settings : Settings) (s : Session) (seconds : Float) (uri : String)
    (text : Option String) :
    Accounts settings [(.changed uri text, s.perform settings seconds (.changed uri text))] s.metrics
      (s.after settings (.changed uri text, seconds)).metrics := by
  cases hd : s.workspace.documents.get? uri with
  | none =>
    have hfail : s.perform settings seconds (.changed uri text) = .error (.documentNotOpen uri) := by
      rw [perform, onChanged_of_not_open settings hd]
      rfl
    exact accounts_of_fail hfail rfl
  | some d₀ =>
    obtain ⟨workspace, d, hchange, hget⟩ : ∃ workspace d,
        s.workspace.changeDocument uri text = .ok (workspace, d) ∧
          workspace.documents.get? uri = some d :=
      ⟨_, _, Workspace.changeDocument_of_open hd text, Table.get?_insert_self _ _ _⟩
    obtain ⟨entry, hentry, hrun⟩ : ∃ entry : LogEntry, entry.source ≠ .stopwatch ∧
        s.onChanged settings seconds uri text
          = .ok { refresh ⟨workspace, s.metrics⟩ settings seconds d with
              log := (refresh ⟨workspace, s.metrics⟩ settings seconds d).log ++ [entry] } := by
      rw [onChanged, hchange]
      exact ⟨_, by simp [LogEntry.source], rfl⟩
    have hafter : (s.after settings (.changed uri text, seconds)).metrics
        = (refresh ⟨workspace, s.metrics⟩ settings seconds d).session.metrics := by
      rw [after, perform, hrun]
      rfl
    rw [hafter, perform, hrun]
    refine accounts_of_refresh ⟨workspace, s.metrics⟩ d seconds hentry rfl ?_ rfl rfl
    rw [Except.map, Attempt.work?, Outcome.map, documents_refresh, hget]
    rfl

/-- **One operation** changes the metrics by what it amounts to. -/
theorem accounts_perform (settings : Settings) (s : Session) (a : Action) (seconds : Float) :
    Accounts settings [(a, s.perform settings seconds a)] s.metrics
      (s.after settings (a, seconds)).metrics := by
  cases a with
  | analyzeText text =>
    refine accounts_of_recordAnalysis seconds rfl rfl ?_ (fun r hr => ?_) rfl
    · exact (List.length_map _).symm
    · exact (count_rule_analyze hr text).symm
  | summarizeText text => exact accounts_summarizeText s seconds text rfl rfl rfl rfl
  | detect => exact accounts_detect settings s seconds
  | opened uri languageId text activate =>
    exact accounts_opened settings s seconds uri languageId text activate
  | changed uri text => exact accounts_changed settings s seconds uri text
  | focus uri =>
    refine accounts_of_metrics_eq rfl fun o ho => ?_
    cases hw : s.workspace.focus uri with
    | error f =>
      rw [perform, hw] at ho
      cases ho
    | ok w =>
      rw [perform, hw] at ho
      cases ho
      exact ⟨rfl, rfl, fun _ => rfl, rfl⟩
  | close uri =>
    refine accounts_of_metrics_eq rfl fun o ho => ?_
    cases hw : s.workspace.closeDocument uri with
    | error f =>
      rw [perform, hw] at ho
      cases ho
    | ok w =>
      rw [perform, hw] at ho
      cases ho
      exact ⟨rfl, rfl, fun _ => rfl, rfl⟩

/-! ### Histories -/

lemma attempts_cons (step : Action × Float) (history : List (Action × Float)) :
    s.attempts settings (step :: history)
      = [(step.1, s.perform settings step.2 step.1)]
        ++ (s.after settings step).attempts settings history := rfl

/-- A history changes the metrics by what its operations amount to. -/
theorem accounts_replay (settings : Settings) (s : Session) (history : List (Action × Float)) :
    Accounts settings (s.attempts settings history) s.metrics
      (s.replay settings history).metrics := by
  induction history generalizing s with
  | nil => exact accounts_nil
  | cons step history ih =>
    rw [attempts_cons, replay_cons]
    exact (accounts_perform settings s step.1 step.2).append (ih (s.after settings step))

/-- **The metrics account exactly for the work done.**  After any history of operations on any
workspace, starting from zero, failing operations among them: analyses are the calls of detailed mode
and the documents opened or changed that are SQL afterwards, summaries the calls of summary mode and
the checks on demand that found an active document, skips the documents opened or changed that are
not SQL; the findings are all that was given back, and each rule is counted as often as it was given
back; and the stopwatch has spoken once for each analysis and each summary. -/
theorem metrics_account_for_work (settings : Settings) (workspace : Workspace)
    (history : List (Action × Float)) :
    let s : Session := ⟨workspace, {}⟩
    let m := (s.replay settings history).metrics
    let attempts := s.attempts settings history
    m.totals.documentsAnalyzed = attempts.countP (·.work? settings = some .analysis) ∧
    m.totals.summariesGenerated = attempts.countP (·.work? settings = some .summary) ∧
    m.totals.documentsSkipped = attempts.countP (·.work? settings = some .skip) ∧
    m.totals.findingsReported = ((given attempts).map (·.value.size)).sum ∧
    (∀ r ∈ catalog,
      m.findings.count r.name = ((given attempts).map (·.value.mentions r)).sum) ∧
    ((given attempts).flatMap (·.log)).countP (·.source = .stopwatch)
      = m.totals.documentsAnalyzed + m.totals.summariesGenerated := by
  intro s m attempts
  have h : Accounts settings attempts {} m := accounts_replay settings s history
  refine ⟨h.analyzed.trans (Nat.zero_add _), h.summarized.trans (Nat.zero_add _),
    h.skipped.trans (Nat.zero_add _), h.reported.trans (Nat.zero_add _),
    fun r hr => (h.byRule r hr).trans (Nat.zero_add _), ?_⟩
  rw [h.timed, List.countP_flatMap]
  exact (Nat.zero_add _).symm

end Session

end QueryLint
