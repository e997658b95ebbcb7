import QueryLint.Proofs.Schema.RoundTrip
import QueryLint.Proofs.Service.Scans

/-!
# The limit on the length of texts

A text is checked for its length where it comes in, and the check on demand, which reads what is
stored, has no check of its own.  That it needs none is an invariant of the workspace: every
document in it `Document.Fits` the limit.  Opening and changing a document keep it, since their
texts have been checked (`Service.Reaches.fits_action`) and the URI of a document to be opened is
not empty (`Command.uri_ne_empty`); so it holds in every state that the service can get into
(`Service.fits_of_reachable`).
-/

namespace QueryLint

/-! ### What a checked body says -/

namespace Command

lemma exists_of_checkBody {α : Type} {check : Json → Check α} {payload : Payload} {a : α}
    (h : checkBody check payload = .ok a) : ∃ j, check j = .ok a := by
  have h := Check.under_eq_ok.mp h
  cases payload with
  | value j =>
    cases j with
    | obj fields => exact ⟨.obj fields, h⟩
    | _ => cases h
  | _ => cases h

lemma uri_ne_empty {r : Request} {request : OpenRequest}
    (h : ofRequest .openDocument r = .ok (.openDocument request)) : request.uri ≠ "" := by
  obtain ⟨request', hbody, heq⟩ := Check.map_eq_ok.mp h
  cases heq
  obtain ⟨j, hj⟩ := exists_of_checkBody hbody
  exact OpenRequest.uri_ne_empty hj

end Command

/-! ### Documents that fit -/

/-- A document as the service may store it. -/
structure Document.Fits (limit : Int) (d : Document) : Prop where
  text : d.text.length ≤ limit
  uri : d.uri ≠ ""
  version : 1 ≤ d.version

/-- Every open document fits the limit. -/
def Workspace.Fits (limit : Int) (w : Workspace) : Prop :=
  ∀ uri d, w.documents.get? uri = some d → d.Fits limit

/-- An operation of the editor brings in nothing that does not fit the limit. -/
def Session.Action.Fits (limit : Int) : Session.Action → Prop
  | opened uri _ text _ => uri ≠ "" ∧ (text.getD "").length ≤ limit
  | changed _ text => (text.getD "").length ≤ limit
  | focus _ | close _ | detect | analyzeText _ | summarizeText _ => True

section

variable {limit : Int} {settings : Settings} {w w' : Workspace} {d : Document} {uri : String}
  {text : Option String}

namespace Workspace

lemma Fits.of_insert (h : w.Fits limit) (hd : d.Fits limit)
    (hw' : w'.documents = w.documents.insert uri d) : w'.Fits limit := by
  rw [Fits, hw']
  exact Table.forall_get?_insert h hd

lemma Fits.of_erase (h : w.Fits limit) (hw' : w'.documents = w.documents.erase uri) :
    w'.Fits limit := by
  rw [Fits, hw']
  exact Table.forall_get?_erase h

lemma fits_edited (hd : d.Fits limit) (htext : (text.getD "").length ≤ limit) :
    (edited d text).Fits limit where
  text := htext
  uri := hd.uri
  version := by
    have := hd.version
    simp only [edited, Document.setText]
    omega

lemma fits_opened (h : w.Fits limit) (huri : uri ≠ "") (languageId : Json.Text)
    (htext : (text.getD "").length ≤ limit) : (w.opened uri languageId text).Fits limit := by
  unfold opened
  split
  next d hd =>
    have hedited := fits_edited (h uri d hd) htext
    exact ⟨hedited.text, hedited.uri, hedited.version⟩
  next => exact ⟨htext, huri, Int.le_refl 1⟩

end Workspace

namespace Session

open Workspace

variable {s : Session} {action : Action}

lemma fits_stored (h : w.Fits limit) (haction : action.Fits limit) (hd : action.Stores w uri d) :
    d.Fits limit := by
  cases hd with
  | opened uri languageId text activate => exact fits_opened h haction.1 languageId haction.2
  | changed uri text d₀ hd₀ => exact fits_edited (h uri d₀ hd₀) haction

/-- **One operation** keeps the workspace within the limit. -/
theorem fits_after (h : s.workspace.Fits limit) (haction : action.Fits limit) (seconds : Float) :
    (s.after settings (action, seconds)).workspace.Fits limit := by
  cases effect_after settings s action seconds with
  | idle _ hdocuments _ =>
    rw [Workspace.Fits, hdocuments]
    exact h
  | stored uri d hstores hdocuments _ => exact h.of_insert (fits_stored h haction hstores) hdocuments
  | closed uri _ _ hdocuments _ => exact h.of_erase hdocuments

end Session

end

/-! ### States of the service -/

namespace Service

variable {settings : Settings} {s : Service} {call : Call} {command : Command} {scan : Scan}

/-- A command that is run brings in nothing that does not fit the limit. -/
lemma Reaches.fits_action (h : Reaches settings s call command) {action : Session.Action}
    (haction : command.action? = some action) : action.Fits settings.maxDocumentLength := by
  cases command with
  | openDocument r =>
    cases haction
    exact ⟨Command.uri_ne_empty h.admitted.form, h.length r.text rfl⟩
  | changeDocument r =>
    cases haction
    exact h.length r.text rfl
  | diagnostics uri => cases haction
  | analyze _ | summarize _ | focusDocument _ | closeDocument _ | detect =>
    cases haction
    trivial

/-- **Every state** of the service is within the limit. -/
theorem fits_of_reachable (h : Reachable settings s) :
    s.session.workspace.Fits settings.maxDocumentLength :=
  h.workspace_induction (fun _ _ hd => by cases hd) fun _ call _ _ hreaches haction hfits =>
    Session.fits_after hfits (hreaches.fits_action haction) call.seconds

/-- What a command that is run has evaluated is a text of the request, or a stored one. -/
lemma Reaches.length_scan (h : Reaches settings s call command)
    (hfits : s.session.workspace.Fits settings.maxDocumentLength)
    (hscan : command.scan? settings s.session.workspace = some scan) :
    scan.text.length ≤ settings.maxDocumentLength := by
  have hpublished : ∀ d : Document, d.scan? settings = some scan → scan.text = d.text := by
    intro d hd
    unfold Document.scan? at hd
    split at hd <;> cases hd
    rfl
  cases command with
  | analyze text | summarize text =>
    cases hscan
    exact h.length text rfl
  | openDocument r =>
    have hlength : ((some r.text).getD "").length ≤ settings.maxDocumentLength :=
      h.length r.text rfl
    have hopened := Workspace.fits_opened hfits (Command.uri_ne_empty h.admitted.form) r.languageId
      hlength
    rw [Command.scan?] at hscan
    rw [hpublished _ hscan]
    exact hopened.text
  | changeDocument r =>
    rw [Command.scan?] at hscan
    obtain ⟨d, -, hd⟩ := Option.bind_eq_some_iff.mp hscan
    rw [hpublished _ hd]
    exact h.length r.text rfl
  | detect =>
    obtain ⟨d, hd, rfl⟩ := Option.map_eq_some_iff.mp hscan
    obtain ⟨uri, -, hget⟩ := Option.bind_eq_some_iff.mp hd
    exact (hfits uri d hget).text
  | focusDocument _ | closeDocument _ | diagnostics _ => cases hscan

lemma handle_of_too_long {text : String} (h : Admitted settings call.request command)
    (hcount : (s.countRequest call.request command.route).2 = false)
    (htext : command.text? = some text) (hlong : settings.maxDocumentLength < text.length) :
    ∃ refusal, checkLength (some text) settings.maxDocumentLength = .error refusal ∧
      s.handle settings call
        = ⟨(s.countRequest call.request command.route).1, .refused refusal, []⟩ := by
  rw [handle_of_admitted h]
  cases accepting settings s call command with
  | tooMany htooMany _ =>
    rw [hcount] at htooMany
    cases htooMany
  | tooLong text' refusal _ htext' hrefusal haccept =>
    obtain rfl : text = text' := Option.some.inj (htext.symm.trans htext')
    exact ⟨refusal, hrefusal, haccept⟩
  | run _ hlength _ =>
    have := hlength text htext
    omega

/-- **No text beyond the limit.**  In every state of the service and for every request: if the
catalog is evaluated, then on a text within the limit, and the metrics show the evaluation, as they
show none otherwise; every stored document is within the limit, with a URI that is not empty and a
version from 1 on; and a request that passes the earlier checks is run if its text is within the
limit, and refused for its length if it is beyond. -/
theorem catalog_within_limit (h : Reachable settings s) (call : Call) :
    let limit := settings.maxDocumentLength
    let handled := s.handle settings call
    (∀ scan, Scans settings s call scan → scan.text.length ≤ limit ∧
      (scan.record call.seconds s.session.metrics).SameScans handled.service.session.metrics) ∧
    ((∀ scan, ¬ Scans settings s call scan) →
      s.session.metrics.SameScans handled.service.session.metrics) ∧
    (∀ uri d, s.session.workspace.documents.get? uri = some d →
      d.text.length ≤ limit ∧ d.uri ≠ "" ∧ 1 ≤ d.version) ∧
    ∀ command, Admitted settings call.request command →
      (s.countRequest call.request command.route).2 = false →
      let counted := (s.countRequest call.request command.route).1
      ((∀ text, command.text? = some text → text.length ≤ limit) →
        handled = run settings call.seconds call.fault counted command) ∧
      ∀ text, command.text? = some text → limit < text.length →
        ∃ refusal, checkLength (some text) limit = .error refusal ∧
          handled = ⟨counted, .refused refusal, []⟩ := by
  have hfits := fits_of_reachable h
  intro limit handled
  refine ⟨fun scan hscan => ⟨?_, sameScans_of_scans hscan⟩, sameScans_of_not_scans,
    fun uri d hd => ?_, fun command hadm hcount => ⟨fun hlength => ?_, fun text htext hlong => ?_⟩⟩
  · obtain ⟨command, hreaches, -, hscan⟩ := hscan
    exact hreaches.length_scan hfits hscan
  · exact ⟨(hfits uri d hd).text, (hfits uri d hd).uri, (hfits uri d hd).version⟩
  · exact handle_of_reaches ⟨hadm, hcount, hlength⟩
  · exact handle_of_too_long hadm hcount htext hlong

/-- The check on demand reads a stored text that is as long as the limit allows: three characters,
none of them a single byte. -/
theorem stored_text_within_limit :
    let settings : Settings := { maxDocumentLength := 3 }
    let opening : Call := { request :=
      { method := "POST", path := "/api/documents/open", client := "a",
        payload := .value (.obj [("uri", .str "u"), ("languageId", .str "sql"),
          ("text", .str "äöü")]) } }
    let call : Call := { request :=
      { method := "POST", path := "/api/commands/detect-slow-queries", client := "a" } }
    let s := fresh.replay settings [opening]
    Reachable settings s ∧ Scans settings s call (.summary "äöü") ∧
      "äöü".length ≤ settings.maxDocumentLength := by
  intro settings opening call s
  have hreachable : Reachable settings s := reachable_replay settings [opening]
  have hadmitted : Admitted settings call.request .detect :=
    ⟨by decide +kernel, by decide +kernel, rfl, rfl, rfl⟩
  have hreaches : Reaches settings s call .detect :=
    ⟨hadmitted, rfl, fun text htext => by cases htext⟩
  have hactive : s.session.workspace.activeDocument.map Document.text = some "äöü" := by
    decide +kernel
  have hscan : Command.detect.scan? settings s.session.workspace = some (.summary "äöü") := by
    obtain ⟨d, hd, htext⟩ := Option.map_eq_some_iff.mp hactive
    rw [Command.scan?, hd, Option.map_some, htext]
  have hstruck : ¬ Command.detect.IsStruck call.fault := by
    rintro ⟨f, hfault, -⟩
    cases hfault
  have hscans : Scans settings s call (.summary "äöü") := ⟨.detect, hreaches, hstruck, hscan⟩
  exact ⟨hreachable, hscans, ((catalog_within_limit hreachable call).1 _ hscans).1⟩

end Service

end QueryLint
