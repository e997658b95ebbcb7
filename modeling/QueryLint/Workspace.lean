import QueryLint.Document
import QueryLint.Failure
import QueryLint.Table

/-!
# The workspace

The open documents, the one that is active, and the diagnostics published for them.  Opening a
document that is already open is an edit: it keeps its place and its version goes up.  An operation
on a document that is not open fails and changes nothing.
-/

namespace QueryLint

/-- Published diagnostics by document; each update replaces the previous one. -/
structure DiagnosticCollection where
  name : String
  entries : Table String (List Diagnostic)

namespace DiagnosticCollection

/-- A collection without entries. -/
def new (name : String) : DiagnosticCollection :=
  ⟨name, .empty⟩

/-- The name of a collection that nobody named. -/
def defaultName : String := "sql"

/-- Publishes the diagnostics of a document. -/
def set (c : DiagnosticCollection) (uri : String) (ds : List Diagnostic) : DiagnosticCollection :=
  { c with entries := c.entries.insert uri ds }

/-- The diagnostics of a document; none if nothing was published. -/
def get (c : DiagnosticCollection) (uri : String) : List Diagnostic :=
  (c.entries.get? uri).getD []

/-- Withdraws what was published for a document. -/
def delete (c : DiagnosticCollection) (uri : String) : DiagnosticCollection :=
  { c with entries := c.entries.erase uri }

/-- Withdraws everything. -/
def clear (c : DiagnosticCollection) : DiagnosticCollection :=
  { c with entries := .empty }

/-- Whether anything, even an empty list, was published for a document. -/
def contains (c : DiagnosticCollection) (uri : String) : Bool :=
  c.entries.contains uri

/-- Number of documents for which something was published. -/
def size (c : DiagnosticCollection) : Nat :=
  c.entries.size

theorem get_set (c : DiagnosticCollection) (uri uri' : String) (ds : List Diagnostic) :
    (c.set uri ds).get uri' = if uri' = uri then ds else c.get uri' := by
  simp only [set, get, Table.get?_insert]
  by_cases h : uri' = uri <;> simp [h]

theorem get_delete (c : DiagnosticCollection) (uri uri' : String) :
    (c.delete uri).get uri' = if uri' = uri then [] else c.get uri' := by
  simp only [delete, get, Table.get?_erase]
  by_cases h : uri' = uri <;> simp [h]

end DiagnosticCollection

/-- Open documents, the active one and their diagnostics. -/
structure Workspace where
  documents : Table String Document
  diagnostics : DiagnosticCollection
  active : Option String

namespace Workspace

/-- A workspace that publishes to the given collection.  A collection without entries is not taken
over: a new one under the default name stands in for it. -/
def new (collection : Option DiagnosticCollection) : Workspace where
  documents := .empty
  diagnostics := (collection.filter fun c => !c.entries.isEmpty).getD
    (.new DiagnosticCollection.defaultName)
  active := none

/-- The document that is open under a URI. -/
def find (w : Workspace) (uri : String) : Except Failure Document :=
  match w.documents.get? uri with
  | some d => .ok d
  | none => .error (.documentNotOpen uri)

theorem find_eq_ok_iff {w : Workspace} {uri : String} {d : Document} :
    w.find uri = .ok d ↔ w.documents.get? uri = some d := by
  unfold find
  split <;> simp_all

theorem find_eq_error_iff {w : Workspace} {uri : String} {f : Failure} :
    w.find uri = .error f ↔ w.documents.get? uri = none ∧ f = .documentNotOpen uri := by
  unfold find
  split
  next d h => simp [h]
  next h =>
    rw [h, Except.error.injEq, eq_comm]
    simp

/-- The document that has the focus. -/
def activeDocument (w : Workspace) : Option Document :=
  w.active.bind w.documents.get?

/-- A document after an edit. -/
def edited (d : Document) (text : Option String) : Document :=
  { d.setText text with version := d.version + 1 }

/-- The document that opening a URI leads to: the open one, edited, or a new one. -/
def opened (w : Workspace) (uri : String) (languageId : Json.Text) (text : Option String) :
    Document :=
  match w.documents.get? uri with
  | some d => { edited d text with languageId := languageId }
  | none => .create uri languageId 1 text

/-- Opens a document, or opens it again. -/
def openDocument (w : Workspace) (uri : String) (languageId : Json.Text) (text : Option String)
    (activate : Bool) : Workspace × Document :=
  let d := w.opened uri languageId text
  ({ w with
      documents := w.documents.insert uri d
      active := if activate then some uri else w.active }, d)

/-- Replaces the text of an open document. -/
def changeDocument (w : Workspace) (uri : String) (text : Option String) :
    Except Failure (Workspace × Document) := do
  let d ← w.find uri
  let d := edited d text
  return ({ w with documents := w.documents.insert uri d }, d)

/-- Makes an open document the active one. -/
def focus (w : Workspace) (uri : String) : Except Failure (Workspace × Document) := do
  let d ← w.find uri
  return ({ w with active := some uri }, d)

/-- Closes a document and withdraws its diagnostics. -/
def closeDocument (w : Workspace) (uri : String) : Except Failure Workspace := do
  let _ ← w.find uri
  return {
    documents := w.documents.erase uri
    diagnostics := w.diagnostics.delete uri
    active := if w.active = some uri then none else w.active }

section

variable {w : Workspace} {uri : String} {d : Document}

theorem changeDocument_of_open (h : w.documents.get? uri = some d) (text : Option String) :
    w.changeDocument uri text
      = .ok ({ w with documents := w.documents.insert uri (edited d text) }, edited d text) := by
  rw [changeDocument, find_eq_ok_iff.mpr h]
  rfl

theorem changeDocument_of_not_open (h : w.documents.get? uri = none) (text : Option String) :
    w.changeDocument uri text = .error (.documentNotOpen uri) := by
  rw [changeDocument, find_eq_error_iff.mpr ⟨h, rfl⟩]
  rfl

theorem focus_of_open (h : w.documents.get? uri = some d) :
    w.focus uri = .ok ({ w with active := some uri }, d) := by
  rw [focus, find_eq_ok_iff.mpr h]
  rfl

theorem focus_of_not_open (h : w.documents.get? uri = none) :
    w.focus uri = .error (.documentNotOpen uri) := by
  rw [focus, find_eq_error_iff.mpr ⟨h, rfl⟩]
  rfl

theorem closeDocument_of_open (h : w.documents.get? uri = some d) :
    w.closeDocument uri = .ok {
      documents := w.documents.erase uri
      diagnostics := w.diagnostics.delete uri
      active := if w.active = some uri then none else w.active } := by
  rw [closeDocument, find_eq_ok_iff.mpr h]
  rfl

theorem closeDocument_of_not_open (h : w.documents.get? uri = none) :
    w.closeDocument uri = .error (.documentNotOpen uri) := by
  rw [closeDocument, find_eq_error_iff.mpr ⟨h, rfl⟩]
  rfl

end

/-- An operation on a workspace. -/
inductive Action where
  | openDocument (uri : String) (languageId : Json.Text) (text : Option String) (activate : Bool)
  | changeDocument (uri : String) (text : Option String)
  | focus (uri : String)
  | closeDocument (uri : String)
deriving DecidableEq, Repr

/-- Performs an operation; closing leaves no document to show. -/
def perform (w : Workspace) : Action → Except Failure (Workspace × Option Document)
  | .openDocument uri languageId text activate =>
    let (w, d) := w.openDocument uri languageId text activate
    .ok (w, some d)
  | .changeDocument uri text => (w.changeDocument uri text).map fun (w, d) => (w, some d)
  | .focus uri => (w.focus uri).map fun (w, d) => (w, some d)
  | .closeDocument uri => (w.closeDocument uri).map fun w => (w, none)

/-- The workspace after an operation: the same one if the operation fails. -/
def after (w : Workspace) (a : Action) : Workspace :=
  match w.perform a with
  | .ok (w, _) => w
  | .error _ => w

/-- The workspace after a history of operations. -/
def replay (w : Workspace) (history : List Action) : Workspace :=
  history.foldl after w

@[simp]
theorem replay_nil (w : Workspace) : w.replay [] = w := rfl

@[simp]
theorem replay_cons (w : Workspace) (a : Action) (history : List Action) :
    w.replay (a :: history) = (w.after a).replay history := rfl

end Workspace

/-- Analyzes a document and publishes its diagnostics.  A document that is not SQL has none, and the
collection stays as it is. -/
def reportDiagnostics (settings : Settings) (d : Document) (c : DiagnosticCollection) :
    DiagnosticCollection × List Diagnostic × List LogEntry :=
  if d.isSql settings then
    let ds := diagnose d
    (c.set d.uri ds, ds, [])
  else
    (c, [], [.message .debug .workspace
      ("Skipping " ++ d.uri ++ ": language '" ++ d.languageId.chars ++ "' is not SQL")])

end QueryLint
