import QueryLint.Proofs.Session.Independence

/-!
# Where diagnostics are published

A workspace publishes to the collection that it was made with, and that collection may hold entries
already.  What an operation of the editor does to a workspace comes in three forms (`Effect`): it
leaves documents and diagnostics alone, it stores a document and publishes for it, or it closes one
and withdraws what was published.  So along a history (`PublishesOver`)

* the collection stays the one that it was;
* a document that was never opened keeps the entry that it had from the start;
* what is published for any other document belongs to its current text.

The one gap is in the making of a workspace: a collection without entries is not taken over.
-/

namespace QueryLint

/-! ### Collections -/

theorem Table.get?_of_isEmpty {κ α : Type} [DecidableEq κ] {t : Table κ α}
    (h : t.isEmpty = true) (k : κ) : t.get? k = none := by
  rw [isEmpty, List.isEmpty_iff] at h
  simp [get?, h]

namespace Workspace

variable {c : DiagnosticCollection}

lemma name_diagnostics_new :
    (new (some c)).diagnostics.name
      = if c.entries.isEmpty then DiagnosticCollection.defaultName else c.name := by
  cases h : c.entries.isEmpty <;> simp [new, Option.filter_some, h, DiagnosticCollection.new]

/-- A collection that is not taken over has no entry to lose. -/
lemma get?_diagnostics_new (uri : String) :
    (new (some c)).diagnostics.entries.get? uri = c.entries.get? uri := by
  cases h : c.entries.isEmpty with
  | false => simp [new, Option.filter_some, h]
  | true =>
    rw [Table.get?_of_isEmpty h]
    simp [new, Option.filter_some, h, DiagnosticCollection.new]

end Workspace

namespace Session

open Workspace

variable {settings : Settings} {s : Session} {c : DiagnosticCollection} {w w' : Workspace}
  {a : Action} {uri : String} {d : Document} {opened : List String}

/-! ### A history of operations -/

/-- The URIs that the operations of a history open. -/
def openedIn (history : List (Action × Float)) : List String :=
  history.filterMap fun step => step.1.opens?

lemma openedIn_cons (step : Action × Float) (history : List (Action × Float)) :
    openedIn (step :: history) = step.1.opens?.toList ++ openedIn history := by
  cases h : step.1.opens? <;> simp [openedIn, h]

lemma exists_of_mem_openedIn {history : List (Action × Float)} (h : uri ∈ openedIn history) :
    ∃ step ∈ history, step.1.uri? = some uri := by
  obtain ⟨step, hstep, hopens⟩ := List.mem_filterMap.mp h
  exact ⟨step, hstep, Action.uri?_of_opens? hopens⟩

/-- What is published, when the collection was `c` at the start and the documents `opened` have been
opened since: the current diagnostics of these, and the old entries of all others. -/
structure PublishesOver (settings : Settings) (c : DiagnosticCollection) (opened : List String)
    (w : Workspace) : Prop where
  uri_eq : ∀ uri d, w.documents.get? uri = some d → d.uri = uri
  opened_of_mem : ∀ uri ∈ w.documents.keys, uri ∈ opened
  name_eq : w.diagnostics.name = c.name
  entry_of_opened : ∀ uri ∈ opened, w.diagnostics.entries.get? uri
    = (w.documents.get? uri).bind (Document.published? settings)
  entry_of_not_opened : ∀ uri ∉ opened, w.diagnostics.entries.get? uri = c.entries.get? uri

lemma publishesOver_new (settings : Settings) (c : DiagnosticCollection) :
    PublishesOver settings (Workspace.new (some c)).diagnostics [] (Workspace.new (some c)) where
  uri_eq _ _ h := by cases h
  opened_of_mem _ h := by cases h
  name_eq := rfl
  entry_of_opened _ h := by cases h
  entry_of_not_opened _ _ := rfl

/-! #### What the three forms keep -/

lemma PublishesOver.idle (h : PublishesOver settings c opened w)
    (hdocuments : w'.documents = w.documents) (hdiagnostics : w'.diagnostics = w.diagnostics) :
    PublishesOver settings c opened w' := by
  refine ⟨?_, ?_, ?_, ?_, ?_⟩ <;> simp only [hdocuments, hdiagnostics]
  · exact h.uri_eq
  · exact h.opened_of_mem
  · exact h.name_eq
  · exact h.entry_of_opened
  · exact h.entry_of_not_opened

lemma PublishesOver.stored {opened' : List String} (h : PublishesOver settings c opened w)
    (hd : d.uri = uri) (hopened : ∀ uri', uri' ∈ opened' ↔ uri' = uri ∨ uri' ∈ opened)
    (hdocuments : w'.documents = w.documents.insert uri d)
    (hdiagnostics : w'.diagnostics = w.diagnostics.update uri (d.published? settings)) :
    PublishesOver settings c opened' w' := by
  refine ⟨?_, ?_, ?_, ?_, ?_⟩
  · rw [hdocuments]
    exact Table.forall_get?_insert h.uri_eq hd
  · intro uri' hmem
    rw [hdocuments, Table.mem_keys_insert] at hmem
    exact (hopened uri').mpr (hmem.imp id (h.opened_of_mem uri'))
  · rw [hdiagnostics, DiagnosticCollection.name_update]
    exact h.name_eq
  · intro uri' hmem
    rw [hdiagnostics, hdocuments, DiagnosticCollection.get?_update, Table.get?_insert]
    split
    next => rfl
    next hne => exact h.entry_of_opened uri' (((hopened uri').mp hmem).resolve_left hne)
  · intro uri' hmem
    rw [hopened, not_or] at hmem
    rw [hdiagnostics, DiagnosticCollection.get?_update, if_neg hmem.1]
    exact h.entry_of_not_opened uri' hmem.2

lemma PublishesOver.closed (h : PublishesOver settings c opened w)
    (hmem : uri ∈ w.documents.keys) (hdocuments : w'.documents = w.documents.erase uri)
    (hdiagnostics : w'.diagnostics = w.diagnostics.update uri none) :
    PublishesOver settings c opened w' := by
  refine ⟨?_, ?_, ?_, ?_, ?_⟩
  · rw [hdocuments]
    exact Table.forall_get?_erase h.uri_eq
  · intro uri' hmem'
    rw [hdocuments, Table.mem_keys_erase] at hmem'
    exact h.opened_of_mem uri' hmem'.1
  · rw [hdiagnostics, DiagnosticCollection.name_update]
    exact h.name_eq
  · intro uri' hopened
    rw [hdiagnostics, hdocuments, DiagnosticCollection.get?_update, Table.get?_erase]
    split
    next => rfl
    next => exact h.entry_of_opened uri' hopened
  · intro uri' hnot
    have hne : uri' ≠ uri := by
      rintro rfl
      exact hnot (h.opened_of_mem uri' hmem)
    rw [hdiagnostics, DiagnosticCollection.get?_update, if_neg hne]
    exact h.entry_of_not_opened uri' hnot

/-- **One operation** publishes over the collection of the start. -/
theorem PublishesOver.effect (h : PublishesOver settings c opened w)
    (he : Effect settings w a w') : PublishesOver settings c (opened ++ a.opens?.toList) w' := by
  cases he with
  | idle hopens hdocuments hdiagnostics =>
    rw [hopens, Option.toList_none, List.append_nil]
    exact h.idle hdocuments hdiagnostics
  | stored uri d hstores hdocuments hdiagnostics =>
    have hd : d.uri = uri := hstores.uri_eq h.uri_eq
    rw [hd] at hdiagnostics
    refine h.stored hd (fun uri' => ?_) hdocuments hdiagnostics
    cases hstores with
    | opened _ languageId text activate => simp [Action.opens?, or_comm]
    | changed _ text d₀ hd₀ =>
      -- the document was open already, so it has been opened before
      have hbefore : uri ∈ opened := h.opened_of_mem uri (Table.mem_keys_iff.mpr ⟨d₀, hd₀⟩)
      rw [Action.opens?, Option.toList_none, List.append_nil]
      constructor
      · exact Or.inr
      · rintro (rfl | huri)
        · exact hbefore
        · exact huri
  | closed uri hclose hmem hdocuments hdiagnostics =>
    rw [hclose, Action.opens?, Option.toList_none, List.append_nil]
    exact h.closed hmem hdocuments hdiagnostics

/-- **Every history** of operations publishes over the collection of its start. -/
theorem PublishesOver.replay (h : PublishesOver settings c opened s.workspace)
    (history : List (Action × Float)) :
    PublishesOver settings c (opened ++ openedIn history)
      (s.replay settings history).workspace := by
  induction history generalizing s opened with
  | nil => simpa [openedIn] using h
  | cons step history ih =>
    rw [replay_cons, openedIn_cons, ← List.append_assoc]
    exact ih (h.effect (effect_after settings s step.1 step.2))

/-! ### Published diagnostics and their place -/

/-- What an operation publishes for the document that it names stands in the collection. -/
lemma get_of_perform (huri : ∀ uri d, s.workspace.documents.get? uri = some d → d.uri = uri)
    {seconds : Float} {o : Outcome Result} {ds : List Diagnostic}
    (ho : s.perform settings seconds a = .ok o) (ha : a.uri? = some uri)
    (hvalue : o.value = .diagnostics ds) : o.session.workspace.diagnostics.get uri = ds := by
  cases a with
  | opened u languageId text activate =>
    cases ho
    cases ha
    cases hvalue
    simp only [DiagnosticCollection.get, Outcome.map, diagnostics_onOpened, value_onOpened,
      DiagnosticCollection.get?_update, uri_opened huri, if_true]
  | changed u text =>
    cases ha
    obtain ⟨o', ho', rfl⟩ := except_map_eq_ok.mp ho
    cases hvalue
    cases hd : s.workspace.documents.get? uri with
    | none =>
      rw [onChanged_of_not_open settings hd] at ho'
      cases ho'
    | some d =>
      have hdiagnostics := diagnostics_onChanged ho' hd
      rw [huri uri d hd] at hdiagnostics
      obtain ⟨o, hchanged, hds, -⟩ := onChanged_of_open settings hd seconds text
      obtain rfl : o = o' := Except.ok.inj (hchanged.symm.trans ho')
      simp only [DiagnosticCollection.get, Outcome.map, hdiagnostics,
        DiagnosticCollection.get?_update, if_true, hds]
  | focus u | close u =>
    obtain ⟨_, -, rfl⟩ := except_map_eq_ok.mp ho
    cases hvalue
  | detect =>
    obtain ⟨_, -, rfl⟩ := except_map_eq_ok.mp ho
    cases hvalue
  | analyzeText text | summarizeText text =>
    cases ho
    cases hvalue

lemma after_of_perform {seconds : Float} {o : Outcome Result}
    (ho : s.perform settings seconds a = .ok o) : s.after settings (a, seconds) = o.session := by
  unfold after
  rw [ho]

/-- **The collection that was given is the one that is used**, if it has an entry or bears the name
that an unnamed one would have.  After every history of operations it holds the old entry for each
document that was never opened, so for each one that was never named, and the diagnostics of the
current text for each document that was; and what an operation publishes can be read from it. -/
theorem publishes_to_given_collection (settings : Settings) (c : DiagnosticCollection)
    (history : List (Action × Float)) :
    let s := (new (some c)).replay settings history
    let published := s.workspace.diagnostics
    (published.name = c.name ↔
      c.entries.isEmpty = false ∨ c.name = DiagnosticCollection.defaultName) ∧
    (∀ uri, (∀ step ∈ history, step.1.uri? ≠ some uri) →
      published.entries.get? uri = c.entries.get? uri) ∧
    (∀ uri, published.entries.get? uri
      = if uri ∈ openedIn history
        then (s.workspace.documents.get? uri).bind (Document.published? settings)
        else c.entries.get? uri) ∧
    ∀ action seconds o uri ds, s.perform settings seconds action = .ok o →
      action.uri? = some uri → o.value = .diagnostics ds →
      o.session.workspace.diagnostics.get uri = ds ∧
        o.session.workspace.diagnostics.name = published.name := by
  intro s published
  have h : PublishesOver settings (Workspace.new (some c)).diagnostics (openedIn history)
      s.workspace := PublishesOver.replay (s := new (some c)) (publishesOver_new settings c) history
  have hnotOpened : ∀ uri, uri ∉ openedIn history →
      published.entries.get? uri = c.entries.get? uri := by
    intro uri hnot
    exact (h.entry_of_not_opened uri hnot).trans (get?_diagnostics_new uri)
  refine ⟨?_, ?_, ?_, ?_⟩
  · rw [h.name_eq, name_diagnostics_new]
    cases c.entries.isEmpty <;> simp [eq_comm]
  · intro uri hnever
    refine hnotOpened uri fun hopened => ?_
    obtain ⟨step, hstep, huri⟩ := exists_of_mem_openedIn hopened
    exact hnever step hstep huri
  · intro uri
    split
    next hopened => exact h.entry_of_opened uri hopened
    next hnot => exact hnotOpened uri hnot
  · intro action seconds o uri ds ho huri hvalue
    have hafter := h.effect (effect_after settings s action seconds)
    rw [after_of_perform ho] at hafter
    exact ⟨get_of_perform h.uri_eq ho huri hvalue, hafter.name_eq.trans h.name_eq.symm⟩

/-- A named collection with an entry of its own.  The change fails, since the document it names is
not open, and leaves that entry alone. -/
theorem named_collection_used :
    let c := (DiagnosticCollection.new "lint").set "old" []
    let history : List (Action × Float) :=
      [(.changed "old" (some "DISTINCT"), 0.1), (.opened "u" "sql" (some "SELECT *") true, 0.1)]
    let s := (new (some c)).replay {} history
    let o := s.onOpened {} 0.1 "u" "sql" (some "DISTINCT") true
    c.entries.isEmpty = false ∧ s.workspace.diagnostics.name = "lint" ∧
      (∀ step ∈ history, step.1.uri? ≠ some "older") ∧
      s.workspace.diagnostics.entries.get? "older" = c.entries.get? "older" ∧
      s.workspace.diagnostics.entries.get? "old" = some [] ∧
      s.perform {} 0.1 (.opened "u" "sql" (some "DISTINCT") true) = .ok (o.map .diagnostics) ∧
      o.session.workspace.diagnostics.get "u" = o.value ∧
      o.session.workspace.diagnostics.name = "lint" := by
  intro c history s
  have hc : c.entries.isEmpty = false := rfl
  have hnever : ∀ step ∈ history, step.1.uri? ≠ some "older" := by simp [history, Action.uri?]
  have hnot : "old" ∉ openedIn history := by simp [history, openedIn, Action.opens?]
  obtain ⟨hname, hunnamed, hentries, hlands⟩ := publishes_to_given_collection {} c history
  have hs : (new (some c)).replay {} history = s := rfl
  rw [hs] at hname hunnamed hentries hlands
  clear_value s
  intro o
  have hlint : s.workspace.diagnostics.name = "lint" := hname.mpr (.inl hc)
  have hold : s.workspace.diagnostics.entries.get? "old" = some [] := by
    rw [hentries "old", if_neg hnot]
    rfl
  obtain ⟨hget, hname'⟩ := hlands (.opened "u" "sql" (some "DISTINCT") true) 0.1
    (o.map .diagnostics) "u" o.value rfl rfl rfl
  exact ⟨hc, hlint, hnever, hunnamed "older" hnever, hold, rfl, hget, hname'.trans hlint⟩

/-- A collection without entries is passed over, and what is published for a document does not reach
it. -/
theorem empty_collection_not_used :
    let c := DiagnosticCollection.new "lint"
    let s := (new (some c)).replay {} [(.opened "u" "sql" (some "SELECT * FROM t") true, 0.1)]
    (s.workspace.diagnostics.get "u").map (·.code) = ["SQ001"] ∧
      s.workspace.diagnostics.name ≠ c.name := by
  decide +kernel

end Session

end QueryLint
