import Mathlib.Tactic.Lemma
import QueryLint.Session

/-!
# What the operations of the editor do

For each operation that evaluates the catalog: which documents it leaves, what is published after
it, and what it gives back.  An operation on a document that is not open, and the check on demand
without an active document, fail; all others succeed.

`Session.effect_after` sums up what this means for a workspace.  An operation leaves documents and
diagnostics alone, or stores one document and publishes for it, or closes one and withdraws what was
published.  Every invariant of the workspace is a case analysis on this.
-/

namespace QueryLint

/-- What is to be published for a document: nothing at all if it is not SQL. -/
def Document.published? (settings : Settings) (d : Document) : Option (List Diagnostic) :=
  if d.isSql settings then some ((analyze d.text).map (toDiagnostic d)) else none

namespace DiagnosticCollection

/-- The collection after an update for a document: its new diagnostics, or none at all. -/
def update (c : DiagnosticCollection) (uri : String) :
    Option (List Diagnostic) → DiagnosticCollection
  | some ds => c.set uri ds
  | none => c.delete uri

variable {c : DiagnosticCollection} {uri uri' : String} {ds? : Option (List Diagnostic)}

@[simp]
lemma name_update : (c.update uri ds?).name = c.name := by
  cases ds? <;> rfl

lemma get?_update :
    (c.update uri ds?).entries.get? uri' = if uri' = uri then ds? else c.entries.get? uri' := by
  cases ds? with
  | none => exact Table.get?_erase _ _ _
  | some ds => exact Table.get?_insert _ _ _ _

end DiagnosticCollection

lemma Workspace.uri_opened {w : Workspace}
    (h : ∀ uri d, w.documents.get? uri = some d → d.uri = uri) (uri : String)
    (languageId : Json.Text) (text : Option String) : (w.opened uri languageId text).uri = uri := by
  unfold opened
  split
  next d hd => exact h uri d hd
  next => rfl

namespace Session

open Workspace

variable {settings : Settings} {s : Session} {w w' : Workspace} {a : Action} {uri : String}
  {d : Document}

/-! ### Opening and changing a document -/

lemma documents_refresh (seconds : Float) :
    (s.refresh settings seconds d).session.workspace.documents = s.workspace.documents := by
  unfold refresh
  split <;> rfl

lemma value_refresh (seconds : Float) :
    (s.refresh settings seconds d).value = (d.published? settings).getD [] := by
  unfold refresh reportDiagnostics Document.published?
  split <;> rfl

lemma diagnostics_refresh (seconds : Float) :
    (s.refresh settings seconds d).session.workspace.diagnostics
      = s.workspace.diagnostics.update d.uri (d.published? settings) := by
  unfold refresh reportDiagnostics Document.published?
  split <;> rfl

lemma documents_onOpened (seconds : Float) (languageId : Json.Text) (text : Option String)
    (activate : Bool) :
    (s.onOpened settings seconds uri languageId text activate).session.workspace.documents
      = s.workspace.documents.insert uri (s.workspace.opened uri languageId text) := by
  unfold onOpened
  exact documents_refresh seconds

lemma value_onOpened (seconds : Float) (languageId : Json.Text) (text : Option String)
    (activate : Bool) :
    (s.onOpened settings seconds uri languageId text activate).value
      = ((s.workspace.opened uri languageId text).published? settings).getD [] := by
  unfold onOpened
  exact value_refresh seconds

lemma diagnostics_onOpened (seconds : Float) (languageId : Json.Text) (text : Option String)
    (activate : Bool) :
    (s.onOpened settings seconds uri languageId text activate).session.workspace.diagnostics
      = s.workspace.diagnostics.update (s.workspace.opened uri languageId text).uri
          ((s.workspace.opened uri languageId text).published? settings) := by
  unfold onOpened
  exact diagnostics_refresh seconds

lemma onChanged_of_open (settings : Settings) (h : s.workspace.documents.get? uri = some d)
    (seconds : Float) (text : Option String) :
    ∃ o, s.onChanged settings seconds uri text = .ok o ∧
      o.value = ((Workspace.edited d text).published? settings).getD [] ∧
      o.session.workspace.documents
        = s.workspace.documents.insert uri (Workspace.edited d text) := by
  rw [onChanged, Workspace.changeDocument_of_open h]
  exact ⟨_, rfl, value_refresh _, documents_refresh _⟩

lemma diagnostics_onChanged {seconds : Float} {text : Option String}
    {o : Outcome (List Diagnostic)} (h : s.onChanged settings seconds uri text = .ok o)
    (hd : s.workspace.documents.get? uri = some d) :
    o.session.workspace.diagnostics
      = s.workspace.diagnostics.update d.uri ((edited d text).published? settings) := by
  rw [onChanged, changeDocument_of_open hd] at h
  cases h
  exact diagnostics_refresh seconds

lemma onChanged_of_not_open (settings : Settings) (h : s.workspace.documents.get? uri = none)
    (seconds : Float) (text : Option String) :
    s.onChanged settings seconds uri text = .error (.documentNotOpen uri) := by
  rw [onChanged, Workspace.changeDocument_of_not_open h]
  rfl

/-! ### The check on demand -/

lemma detect_of_active (h : s.workspace.activeDocument = some d) (seconds : Float) :
    ∃ o, s.detect seconds = .ok o ∧ o.value = notify (summarize d.text) ∧
      o.session.workspace = s.workspace := by
  unfold detect
  rw [h]
  exact ⟨_, rfl, rfl, rfl⟩

lemma detect_of_not_active (h : s.workspace.activeDocument = none) (seconds : Float) :
    s.detect seconds = .error (.noActiveDocument Failure.noActiveMessage) := by
  unfold detect
  rw [h]

lemma workspace_detect {seconds : Float} {o : Outcome Notification}
    (h : s.detect seconds = .ok o) : o.session.workspace = s.workspace := by
  unfold detect at h
  split at h <;> cases h
  rfl

/-! ### Any operation -/

/-- The document that an operation names. -/
def Action.uri? : Action → Option String
  | opened u _ _ _ | changed u _ | focus u | close u => some u
  | detect | analyzeText _ | summarizeText _ => none

/-- The document that an operation opens. -/
def Action.opens? : Action → Option String
  | .opened u _ _ _ => some u
  | .changed _ _ | .focus _ | .close _ | .detect | .analyzeText _ | .summarizeText _ => none

lemma Action.uri?_of_opens? (h : a.opens? = some uri) : a.uri? = some uri := by
  cases a <;> first | exact h | cases h

/-- The operation stores this document under the URI. -/
inductive Action.Stores (w : Workspace) : Action → String → Document → Prop where
  | opened (uri : String) (languageId : Json.Text) (text : Option String) (activate : Bool) :
      Stores w (.opened uri languageId text activate) uri (w.opened uri languageId text)
  | changed (uri : String) (text : Option String) (d : Document) :
      w.documents.get? uri = some d → Stores w (.changed uri text) uri (edited d text)

/-- What an operation does to a workspace. -/
inductive Effect (settings : Settings) (w : Workspace) (a : Action) (w' : Workspace) : Prop where
  /-- It leaves the documents and what is published for them alone. -/
  | idle : a.opens? = none → w'.documents = w.documents → w'.diagnostics = w.diagnostics →
      Effect settings w a w'
  /-- It stores a document and publishes its diagnostics. -/
  | stored (uri : String) (d : Document) : a.Stores w uri d →
      w'.documents = w.documents.insert uri d →
      w'.diagnostics = w.diagnostics.update d.uri (d.published? settings) → Effect settings w a w'
  /-- It closes a document and withdraws its diagnostics. -/
  | closed (uri : String) : a = .close uri → uri ∈ w.documents.keys →
      w'.documents = w.documents.erase uri →
      w'.diagnostics = w.diagnostics.update uri none → Effect settings w a w'

/-- **Any operation** has one of the three effects, whether it succeeds or not. -/
theorem effect_after (settings : Settings) (s : Session) (a : Action) (seconds : Float) :
    Effect settings s.workspace a (s.after settings (a, seconds)).workspace := by
  unfold after
  cases a with
  | opened u languageId text activate =>
    exact .stored u (s.workspace.opened u languageId text) (.opened u languageId text activate)
      (documents_onOpened seconds languageId text activate)
      (diagnostics_onOpened seconds languageId text activate)
  | changed u text =>
    cases hd : s.workspace.documents.get? u with
    | none =>
      simp only [perform, onChanged_of_not_open settings hd, Except.map]
      exact .idle rfl rfl rfl
    | some d =>
      obtain ⟨o, ho, -, hdocuments⟩ := onChanged_of_open settings hd seconds text
      have hdiagnostics := diagnostics_onChanged ho hd
      simp only [perform, ho, Except.map, Outcome.map]
      exact .stored u (edited d text) (.changed u text d hd) hdocuments hdiagnostics
  | focus u =>
    cases hd : s.workspace.documents.get? u with
    | none =>
      simp only [perform, focus_of_not_open hd, Except.map]
      exact .idle rfl rfl rfl
    | some d =>
      simp only [perform, focus_of_open hd, Except.map]
      exact .idle rfl rfl rfl
  | close u =>
    cases hd : s.workspace.documents.get? u with
    | none =>
      simp only [perform, closeDocument_of_not_open hd, Except.map]
      exact .idle rfl rfl rfl
    | some d =>
      simp only [perform, closeDocument_of_open hd, Except.map]
      exact .closed u rfl (Table.mem_keys_iff.mpr ⟨d, hd⟩) rfl rfl
  | detect =>
    cases ho : s.detect seconds with
    | error f =>
      simp only [perform, ho, Except.map]
      exact .idle rfl rfl rfl
    | ok o =>
      simp only [perform, ho, Except.map, Outcome.map, workspace_detect ho]
      exact .idle rfl rfl rfl
  | analyzeText text | summarizeText text => exact .idle rfl rfl rfl

lemma Action.Stores.uri?_eq (h : a.Stores w uri d) : a.uri? = some uri := by
  cases h <;> rfl

/-- What is stored bears the URI that it stands under. -/
lemma Action.Stores.uri_eq (h : a.Stores w uri d)
    (huri : ∀ uri d, w.documents.get? uri = some d → d.uri = uri) : d.uri = uri := by
  cases h with
  | opened uri languageId text activate => exact uri_opened huri uri languageId text
  | changed uri text d₀ hd₀ => exact huri uri d₀ hd₀

end Session

end QueryLint
