import QueryLint.Proofs.Failure.Messages
import QueryLint.Proofs.Schema.RoundTrip
import QueryLint.Proofs.Service.Answers

/-!
# What clients are told about missing documents

Whoever asks for a document that is not open is answered that it was not found, and the answer names
the document as far as the length of messages allows (`Failure.missingNotice`).  The URI is chosen
by the client, but it is treated like the rest of the message: if it looks like a stack trace or the
name of a source file, the message is replaced and the client is not told which document is missing
(`source_file_not_named`).  The words in front of the URI neither cause nor prevent this
(`Failure.reveals_notOpen_iff`).
-/

namespace QueryLint

/-- The document that has to be open for a command. -/
def Command.needs? : Command → Option String
  | changeDocument r => some r.uri
  | focusDocument uri | closeDocument uri | diagnostics uri => some uri
  | analyze _ | summarize _ | openDocument _ | detect => none

lemma Command.obstacle?_of_needs {w : Workspace} {command : Command} {uri : String}
    (h : command.needs? = some uri) (hw : w.documents.get? uri = none) :
    command.obstacle? w = some (.documentNotOpen uri) := by
  cases command with
  | changeDocument _ | focusDocument _ | closeDocument _ | diagnostics _ =>
    cases h
    simp [obstacle?, hw]
  | analyze _ | summarize _ | openDocument _ | detect => cases h

/-! ### The message -/

namespace Failure

variable {uri : String}

/-- What the message on a document that is not open begins with: as many characters of its URI as
fit into 200 characters. -/
def missingNotice (uri : String) : String :=
  "Document not open: " ++ firstChars (min uri.length 181) uri

/-- The words in front of a URI add nothing to what it reveals. -/
lemma reveals_notOpen_iff : Reveals ("Document not open: " ++ uri) ↔ Reveals uri := by
  have hpart : ∀ (part : List Char) (c : Char), part.head? = some c →
      c ∉ "Document not open: ".toList →
      (part <:+: ("Document not open: " ++ uri).toList ↔ part <:+: uri.toList) := by
    intro part c hhead hc
    rw [String.toList_append]
    constructor
    · intro h
      exact infix_right_of_infix_append h hhead hc
    · exact List.infix_append_of_infix_right
  have htrace := hpart "Traceback".toList 'T' rfl (by decide)
  have hfile := hpart "File".toList 'F' rfl (by decide)
  have hending := hpart ".py".toList '.' rfl (by decide)
  rw [Reveals, Reveals, htrace, hfile, hending]

lemma length_notOpen (uri : String) :
    ("Document not open: " ++ uri).length = 19 + uri.length := by
  have hwords : "Document not open: ".toList = _ := String.toList_ofList
  rw [← String.length_toList, String.toList_append, hwords, List.length_append,
    String.length_toList]
  rfl

/-- The words in front of a URI take 19 of the 200 characters. -/
lemma firstChars_notOpen (uri : String) :
    firstChars 200 ("Document not open: " ++ uri) = "Document not open: " ++ firstChars 181 uri := by
  apply String.toList_inj.mp
  simp [firstChars]

lemma firstChars_length (uri : String) : firstChars uri.length uri = uri := by
  apply String.toList_inj.mp
  rw [firstChars, String.toList_ofList, ← String.length_toList, List.take_length]

/-- A URI that reveals nothing is shown, all of it or its beginning. -/
theorem missingNotice_prefix (h : ¬ Reveals uri) :
    (missingNotice uri).toList <+: (sanitize ("Document not open: " ++ uri)).toList := by
  have hreveals := reveals_notOpen_iff.not.mpr h
  by_cases hlong : 181 < uri.length
  · have hlength : 200 < ("Document not open: " ++ uri).length := by
      rw [length_notOpen]
      omega
    have hnotice : missingNotice uri = "Document not open: " ++ firstChars 181 uri := by
      unfold missingNotice
      rw [Nat.min_eq_right (Nat.le_of_lt hlong)]
    have hshown := sanitize_of_long hreveals hlength
    exact ⟨"...".toList, by rw [hshown, firstChars_notOpen, ← hnotice, String.toList_append]⟩
  · have hlength : ("Document not open: " ++ uri).length ≤ 200 := by
      rw [length_notOpen]
      omega
    have hnotice : missingNotice uri = "Document not open: " ++ uri := by
      unfold missingNotice
      rw [Nat.min_eq_left (Nat.not_lt.mp hlong), firstChars_length]
    have hshown := sanitize_of_short hreveals hlength
    exact ⟨[], by rw [hshown, hnotice, List.append_nil]⟩

/-- The text that stands in place of a message names no document. -/
lemma not_missingNotice_prefix_concealed (uri : String) :
    ¬ (missingNotice uri).toList <+: concealed.toList := by
  have hwords : "Document not open: ".toList = 'D' :: _ := String.toList_ofList
  have hconcealed : concealed.toList = 'A' :: _ := String.toList_ofList
  unfold missingNotice
  rw [String.toList_append, hwords, hconcealed, List.cons_append, List.cons_prefix_cons]
  intro h
  cases h.1

end Failure

/-! ### The answer -/

namespace Service

open Failure

variable {settings : Settings} {s : Service} {call : Call} {command : Command} {uri : String}

/-- A request for a document that is not open fails for this reason. -/
lemma handle_of_missing (h : Cleared settings s call command) (hneeds : command.needs? = some uri)
    (hmissing : s.session.workspace.documents.get? uri = none) :
    s.handle settings call = (s.countRequest call.request command.route).1.failed command.route
      (.documentNotOpen uri) := by
  have hcount := session_countRequest (s := s) call.request command.route
  have hobstacle := Command.obstacle?_of_needs hneeds (hcount ▸ hmissing)
  rw [handle_of_cleared h]
  cases ran settings call.seconds none (s.countRequest call.request command.route).1 command with
  | struck _ hfault _ => cases hfault
  | hindered f hf hrun =>
    rw [hobstacle] at hf
    cases hf
    exact hrun
  | done hnone _ =>
    rw [hobstacle] at hnone
    cases hnone

/-- Nothing but an empty URI keeps the first request for the focus on a document from being looked
into. -/
lemma cleared_focus (h : uri ≠ "") :
    Cleared {} fresh { request :=
      { method := "POST", path := "/api/documents/focus", client := "a",
        payload := .value (.obj [("uri", .str uri)]) } } (.focusDocument uri) := by
  have hpath : Route.ofPath? "/api/documents/focus" = some (.guarded .focusDocument) := rfl
  have hmethod : (Route.guarded .focusDocument).allows "POST" = true := rfl
  have hbody : DocumentRef.check (.obj [("uri", .str uri)]) = .ok ⟨uri⟩ :=
    DocumentRef.check_json (r := ⟨uri⟩) h
  refine ⟨rfl, ⟨hpath, hmethod, rfl, rfl, ?form⟩, rfl, ?length⟩
  case form =>
    simp only [Command.ofRequest, Command.route, Command.checkBody, hbody]
    rfl
  case length =>
    intro text htext
    cases htext

/-- **Missing documents are named, unless their URI seems to reveal something.**  Looking for a
document that is not open fails, and so do changing it, the focus on it, closing it and asking for
its report.  The failure is answered with the status 404 in every context, and so is every request
for the document that passes all checks.  The answer begins with the words "Document not open: " and
the first 181 characters of the URI, or all of it if there are fewer, unless the URI holds the
beginning of a stack trace or both marks of a source file; then the usual text stands in place of
the message. -/
theorem missing_document_named_unless_revealing
    (hmissing : s.session.workspace.documents.get? uri = none) :
    let w := s.session.workspace
    let failure := Failure.documentNotOpen uri
    (w.find uri = .error failure ∧ (∀ text, w.changeDocument uri text = .error failure) ∧
      w.focus uri = .error failure ∧ w.closeDocument uri = .error failure ∧
      documentReport w uri = .error failure) ∧
    ∃ detail,
      (∀ context, (failure.handle context).1 = ⟨404, detail⟩) ∧
      (∀ settings call command, Cleared settings s call command → command.needs? = some uri →
        (s.handle settings call).response = .refused ⟨404, detail⟩ ∧
        (s.handle settings call).response.delivered? = some 404) ∧
      (¬ Reveals uri → (missingNotice uri).toList <+: detail.toList) ∧
      (Reveals uri → detail = concealed) := by
  intro w failure
  refine ⟨⟨?find, ?change, ?focus, ?close, ?report⟩, sanitize ("Document not open: " ++ uri),
    fun context => rfl, ?answer, missingNotice_prefix, ?concealed⟩
  case find => exact Workspace.find_eq_error_iff.mpr ⟨hmissing, rfl⟩
  case change => exact Workspace.changeDocument_of_not_open hmissing
  case focus => exact Workspace.focus_of_not_open hmissing
  case close => exact Workspace.closeDocument_of_not_open hmissing
  case report => exact documentReport_eq_error hmissing
  case answer =>
    intro settings call command hcleared hneeds
    rw [handle_of_missing hcleared hneeds hmissing]
    exact ⟨rfl, delivered?_failed _ _⟩
  case concealed =>
    intro hreveals
    exact sanitize_of_reveals (reveals_notOpen_iff.mpr hreveals)

/-- A request for the focus on a document that was never opened. -/
theorem missing_draft_named :
    let uri := "untitled:draft.sql"
    let call : Call := { request :=
      { method := "POST", path := "/api/documents/focus", client := "a",
        payload := .value (.obj [("uri", .str uri)]) } }
    fresh.session.workspace.documents.get? uri = none ∧ ¬ Reveals uri ∧
      Cleared {} fresh call (.focusDocument uri) ∧
      ∃ detail, (fresh.handle {} call).response = .refused ⟨404, detail⟩ ∧
        (missingNotice uri).toList <+: detail.toList := by
  intro uri call
  have hmissing : fresh.session.workspace.documents.get? uri = none := rfl
  have hreveals : ¬ Reveals uri := by decide
  have hcleared : Cleared {} fresh call (.focusDocument uri) := cleared_focus (by decide)
  obtain ⟨-, detail, -, hanswer, hnamed, -⟩ := missing_document_named_unless_revealing hmissing
  exact ⟨hmissing, hreveals, hcleared, detail, (hanswer _ _ _ hcleared rfl).1, hnamed hreveals⟩

/-- The URI of a document that is not open and looks like a source file: it is not found, and the
client is not told what. -/
theorem source_file_not_named :
    let uri := "file:///srv/FileStore/orders.py"
    let call : Call := { request :=
      { method := "POST", path := "/api/documents/focus", client := "a",
        payload := .value (.obj [("uri", .str uri)]) } }
    fresh.session.workspace.documents.get? uri = none ∧
      Cleared {} fresh call (.focusDocument uri) ∧
      (fresh.handle {} call).response = .refused ⟨404, concealed⟩ ∧
      ((Failure.documentNotOpen uri).handle none).1 = ⟨404, concealed⟩ ∧
      ¬ (missingNotice uri).toList <+: concealed.toList := by
  intro uri call
  have hcleared : Cleared {} fresh call (.focusDocument uri) := cleared_focus (by decide)
  have hreveals : Reveals uri := by decide
  have hsanitized : sanitize ("Document not open: " ++ uri) = concealed :=
    sanitize_of_reveals (reveals_notOpen_iff.mpr hreveals)
  have hshown : ((Failure.documentNotOpen uri).handle none).1 = ⟨404, concealed⟩ :=
    congrArg (Refusal.mk 404) hsanitized
  refine ⟨rfl, hcleared, ?_, hshown, not_missingNotice_prefix_concealed uri⟩
  rw [handle_of_missing hcleared rfl rfl, ← hshown]
  rfl

end Service

end QueryLint
