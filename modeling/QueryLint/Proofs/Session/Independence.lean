import Mathlib.Data.Set.Pairwise.Lattice
import Mathlib.Order.CompletePartialOrder
import QueryLint.Proofs.Service.Diagnostics

/-!
# Documents do not interfere

An operation of the editor touches no other document than the one it names
(`documents_after_of_ne`), and what it does to that one depends on nothing else (`perform_congr`).
So the operations on the documents of one client give the same results, and leave those documents
and their diagnostics in the same state, whatever other clients do to other documents in between
(`Agree.replay`).  Only the check of the active document is about all clients at once.
-/

namespace QueryLint

namespace Session

/-- What the operations of a history give back. -/
def results (s : Session) (settings : Settings) (history : List (Action × Float)) :
    List (Except Failure Result) :=
  (s.outcomes settings history).map fun o => o.map Outcome.value

variable {settings : Settings} {s t : Session} {uri : String} {a : Action} {d : Document}

lemma results_cons (step : Action × Float) (history : List (Action × Float)) :
    s.results settings (step :: history)
      = (s.perform settings step.2 step.1).map Outcome.value
        :: (s.after settings step).results settings history := rfl

lemma length_results (history : List (Action × Float)) :
    (s.results settings history).length = history.length := by
  induction history generalizing s with
  | nil => rfl
  | cons step history ih => rw [results_cons, List.length_cons, ih, List.length_cons]

/-! ### One operation -/

/-- An operation leaves the documents alone that it does not name. -/
theorem documents_after_of_ne (ha : a.uri? ≠ some uri) (seconds : Float) :
    (s.after settings (a, seconds)).workspace.documents.get? uri
      = s.workspace.documents.get? uri := by
  cases effect_after settings s a seconds with
  | idle _ hdocuments _ => rw [hdocuments]
  | stored u d hstores hdocuments _ =>
    have hne : uri ≠ u := fun heq => ha (heq ▸ hstores.uri?_eq)
    rw [hdocuments, Table.get?_insert_of_ne _ _ hne]
  | closed u hclose _ hdocuments _ =>
    subst hclose
    have hne : uri ≠ u := fun heq => ha (congrArg some heq.symm)
    rw [hdocuments, Table.get?_erase_of_ne _ hne]

/-- What an operation gives back, and the document that it leaves under a URI. -/
def shown (uri : String) (o : Outcome Result) : Result × Option Document :=
  (o.value, o.session.workspace.documents.get? uri)

/-- What an operation does to the document that it names depends on that document only. -/
theorem perform_congr (settings : Settings) (ha : a.uri? = some uri)
    (h : s.workspace.documents.get? uri = t.workspace.documents.get? uri)
    (seconds seconds' : Float) :
    (s.perform settings seconds a).map (shown uri)
      = (t.perform settings seconds' a).map (shown uri) := by
  cases a with
  | opened u l text activate =>
    cases ha
    have hopened : s.workspace.opened uri l text = t.workspace.opened uri l text := by
      rw [Workspace.opened, Workspace.opened, h]
    simp only [perform, Except.map, shown, Outcome.map, documents_onOpened, value_onOpened,
      Table.get?_insert_self, hopened]
  | changed u text =>
    cases ha
    cases hs : s.workspace.documents.get? uri with
    | none =>
      have ht := h.symm.trans hs
      rw [perform, perform, onChanged_of_not_open settings hs, onChanged_of_not_open settings ht]
    | some d =>
      have ht := h.symm.trans hs
      obtain ⟨o, ho, hvalue, hdocuments⟩ := onChanged_of_open settings hs seconds text
      obtain ⟨o', ho', hvalue', hdocuments'⟩ := onChanged_of_open settings ht seconds' text
      simp only [perform, ho, ho', Except.map, shown, Outcome.map, hvalue, hvalue', hdocuments,
        hdocuments', Table.get?_insert_self]
  | focus u =>
    cases ha
    cases hs : s.workspace.documents.get? uri with
    | none =>
      have ht := h.symm.trans hs
      rw [perform, perform, Workspace.focus_of_not_open hs, Workspace.focus_of_not_open ht]
      rfl
    | some d =>
      have ht := h.symm.trans hs
      rw [perform, perform, Workspace.focus_of_open hs, Workspace.focus_of_open ht]
      simp only [Except.map, shown, h]
  | close u =>
    cases ha
    cases hs : s.workspace.documents.get? uri with
    | none =>
      have ht := h.symm.trans hs
      rw [perform, perform, Workspace.closeDocument_of_not_open hs,
        Workspace.closeDocument_of_not_open ht]
      rfl
    | some d =>
      have ht := h.symm.trans hs
      rw [perform, perform, Workspace.closeDocument_of_open hs, Workspace.closeDocument_of_open ht]
      simp only [Except.map, shown, Table.get?_erase_self]
  | detect | analyzeText _ | summarizeText _ => cases ha

/-! ### Two histories side by side -/

/-- Two sessions hold the same documents under some URIs. -/
def Agree (uris : Set String) (s t : Session) : Prop :=
  ∀ uri ∈ uris, s.workspace.documents.get? uri = t.workspace.documents.get? uri

/-- Whether an operation looks at the document that has the focus, whichever it is. -/
def Action.followsFocus : Action → Bool
  | detect => true
  | _ => false

variable {uris : Set String}

lemma Agree.after_left (h : Agree uris s t) (ha : ∀ uri, a.uri? = some uri → uri ∉ uris)
    (seconds : Float) : Agree uris (s.after settings (a, seconds)) t := by
  intro uri huri
  rw [documents_after_of_ne (fun heq => ha uri heq huri)]
  exact h uri huri

lemma after_eq_shown (seconds : Float) :
    (s.after settings (a, seconds)).workspace.documents.get? uri
      = match (s.perform settings seconds a).map (shown uri) with
        | .ok p => p.2
        | .error _ => s.workspace.documents.get? uri := by
  unfold after
  cases s.perform settings seconds a <;> rfl

lemma Agree.after_both (h : Agree uris s t) (seconds seconds' : Float) :
    Agree uris (s.after settings (a, seconds)) (t.after settings (a, seconds')) := by
  intro uri huri
  by_cases ha : a.uri? = some uri
  · rw [after_eq_shown, after_eq_shown, perform_congr settings ha (h uri huri) seconds seconds',
      h uri huri]
  · rw [documents_after_of_ne ha, documents_after_of_ne ha]
    exact h uri huri

lemma Agree.result_eq (settings : Settings) (h : Agree uris s t)
    (ha : ∀ uri, a.uri? = some uri → uri ∈ uris) (hfocus : a.followsFocus = false)
    (seconds seconds' : Float) :
    (s.perform settings seconds a).map Outcome.value
      = (t.perform settings seconds' a).map Outcome.value := by
  cases huri : a.uri? with
  | some uri =>
    have hshown := perform_congr settings huri (h uri (ha uri huri)) seconds seconds'
    have hvalue := congrArg (Except.map Prod.fst) hshown
    rwa [except_map_map, except_map_map] at hvalue
  | none =>
    cases a with
    | detect => cases hfocus
    | analyzeText text | summarizeText text => rfl
    | _ => cases huri

/-- **Side by side.**  A history in which some operations are `mine`, which name documents under
`uris` only, while no other operation names one of these, and a history of just my operations. -/
theorem Agree.replay {σ : Type} (settings : Settings) (op : σ → Action × Float)
    (mine : σ → Bool) {history : List σ} {alone : List (Action × Float)} (h : Agree uris s t)
    (halone : alone.map Prod.fst = (history.filter mine).map fun x => (op x).1)
    (hmine : ∀ x ∈ history, mine x = true → ∀ uri, (op x).1.uri? = some uri → uri ∈ uris)
    (hother : ∀ x ∈ history, mine x = false → ∀ uri, (op x).1.uri? = some uri → uri ∉ uris) :
    Agree uris (s.replay settings (history.map op)) (t.replay settings alone) ∧
      ((history.zip (s.results settings (history.map op))).filter fun e =>
          mine e.1 && !(op e.1).1.followsFocus).map Prod.snd
        = ((alone.zip (t.results settings alone)).filter fun e =>
          !e.1.1.followsFocus).map Prod.snd := by
  induction history generalizing s t alone with
  | nil =>
    obtain rfl : alone = [] := by simpa using halone
    exact ⟨h, rfl⟩
  | cons x history ih =>
    have hmine' := fun y hy => hmine y (List.mem_cons_of_mem x hy)
    have hother' := fun y hy => hother y (List.mem_cons_of_mem x hy)
    rw [List.map_cons, replay_cons, results_cons, List.zip_cons_cons]
    cases hx : mine x with
    | false =>
      rw [List.filter_cons_of_neg (by simp [hx])] at halone
      rw [List.filter_cons_of_neg (by simp [hx])]
      exact ih (h.after_left (hother x List.mem_cons_self hx) (op x).2) halone hmine' hother'
    | true =>
      rw [List.filter_cons_of_pos hx, List.map_cons, List.map_eq_cons_iff] at halone
      obtain ⟨step, rest, rfl, hstep, hrest⟩ := halone
      obtain ⟨a, seconds⟩ := step
      obtain rfl : a = (op x).1 := hstep
      obtain ⟨hagree, hresults⟩ := ih (h.after_both (op x).2 seconds) hrest hmine' hother'
      refine ⟨hagree, ?_⟩
      rw [results_cons, List.zip_cons_cons]
      cases hfocus : (op x).1.followsFocus with
      | true => simpa [hx, hfocus] using hresults
      | false =>
        have hresult := h.result_eq settings (hmine x List.mem_cons_self hx) hfocus (op x).2
          seconds
        simpa [hx, hfocus] using ⟨hresult, hresults⟩

/-! ### Sessions that start without documents -/

/-- Two sessions hold the same document under a URI, and the same is published for it. -/
def SameAt (uri : String) (s t : Session) : Prop :=
  s.workspace.documents.get? uri = t.workspace.documents.get? uri ∧
    s.workspace.diagnostics.entries.get? uri = t.workspace.diagnostics.entries.get? uri

lemma upToDate_replay (h : s.workspace.UpToDate settings) (history : List (Action × Float)) :
    (s.replay settings history).workspace.UpToDate settings := by
  induction history generalizing s with
  | nil => exact h
  | cons step history ih =>
    rw [replay_cons]
    exact ih (upToDate_after h step)

/-- What is published follows from the documents, since it is up to date. -/
lemma Agree.sameAt (h : Agree uris s t) (hs : s.workspace.UpToDate settings)
    (ht : t.workspace.UpToDate settings) (huri : uri ∈ uris) : SameAt uri s t :=
  ⟨h uri huri, by rw [hs.entries_eq, ht.entries_eq, h uri huri]⟩

lemma followsFocus_of_uri? (h : a.uri? = some uri) : a.followsFocus = false := by
  cases a <;> first | rfl | cases h

/-- **Documents do not interfere.**  What is stored and published for a document, and what the
operations that name it give back, is the same if all other operations are left out.  So if clients
work on documents of their own, then in any interleaving each of them finds its documents and the
results of its operations as if it were alone; only the check of the active document, which names
none, can tell that there are others.  Durations may differ from run to run. -/
theorem documents_do_not_interfere (settings : Settings) :
    (∀ uri (history alone : List (Action × Float)),
      alone.map Prod.fst = (history.map Prod.fst).filter (fun a => a.uri? = some uri) →
      SameAt uri ((new none).replay settings history) ((new none).replay settings alone) ∧
      ((history.zip ((new none).results settings history)).filter fun e =>
          e.1.1.uri? = some uri).map Prod.snd
        = (new none).results settings alone) ∧
    ∀ (ι : Type) [DecidableEq ι] (uris : ι → Set String) (history : List (ι × Action × Float)),
      Pairwise (fun i j => Disjoint (uris i) (uris j)) →
      (∀ x ∈ history, ∀ uri, x.2.1.uri? = some uri → uri ∈ uris x.1) →
      ∀ client (alone : List (Action × Float)),
        alone.map Prod.fst = (history.filter fun x => x.1 = client).map (fun x => x.2.1) →
        (∀ uri ∈ uris client, SameAt uri ((new none).replay settings (history.map Prod.snd))
          ((new none).replay settings alone)) ∧
        ((history.zip ((new none).results settings (history.map Prod.snd))).filter fun e =>
            e.1.1 = client && !e.1.2.1.followsFocus).map Prod.snd
          = ((alone.zip ((new none).results settings alone)).filter fun e =>
            !e.1.1.followsFocus).map Prod.snd := by
  have hfresh : (new none).workspace.UpToDate settings := Workspace.upToDate_new
  constructor
  · intro uri history alone halone
    have halone' : alone.map Prod.fst
        = (history.filter fun x => x.1.uri? = some uri).map fun x => x.1 := by
      rw [halone, List.filter_map]
      rfl
    have hnamed : ∀ step ∈ alone, step.1.uri? = some uri := by
      intro step hstep
      have hmem : step.1 ∈ alone.map Prod.fst := List.mem_map_of_mem hstep
      rw [halone] at hmem
      simpa using (List.mem_filter.mp hmem).2
    have hagree : Agree {uri} (new none) (new none) := fun _ _ => rfl
    obtain ⟨hstate, hresults⟩ := hagree.replay settings id
      (fun x => decide (x.1.uri? = some uri)) halone' (by simp_all)
      (fun x _ hx u hu => by
        rintro rfl
        exact of_decide_eq_false hx hu)
    rw [List.map_id] at hstate hresults
    refine ⟨hstate.sameAt (upToDate_replay hfresh _) (upToDate_replay hfresh _) rfl, ?_⟩
    -- an operation that names a document does not follow the focus, so both filters are idle
    have hfilter : ∀ e ∈ history.zip ((new none).results settings history),
        (decide (e.1.1.uri? = some uri) && !(id e.1).1.followsFocus)
          = decide (e.1.1.uri? = some uri) := by
      intro e _
      by_cases he : e.1.1.uri? = some uri
      · simp [he, followsFocus_of_uri? he]
      · simp [he]
    have hall : ∀ e ∈ alone.zip ((new none).results settings alone),
        (!e.1.1.followsFocus) = true := by
      intro e he
      rw [followsFocus_of_uri? (hnamed e.1 (List.of_mem_zip he).1)]
      rfl
    rw [List.filter_congr hfilter, List.filter_eq_self.mpr hall,
      List.map_snd_zip (length_results alone).le] at hresults
    exact hresults
  · intro ι _ uris history hdisjoint howns client alone halone
    have hagree : Agree (uris client) (new none) (new none) := fun _ _ => rfl
    obtain ⟨hstate, hresults⟩ := hagree.replay settings Prod.snd
      (fun x => decide (x.1 = client)) halone
      (fun x hx hclient uri huri => of_decide_eq_true hclient ▸ howns x hx uri huri)
      (fun x hx hclient uri huri hmem => Set.disjoint_left.mp
        (hdisjoint (of_decide_eq_false hclient)) (howns x hx uri huri) hmem)
    exact ⟨fun uri huri => hstate.sameAt (upToDate_replay hfresh _) (upToDate_replay hfresh _)
      huri, hresults⟩

/-- Two clients, one of which closes its document and then changes it. -/
theorem two_clients_do_not_interfere :
    let uris : Bool → Set String := fun client => if client then {"a"} else {"b"}
    let history : List (Bool × Action × Float) :=
      [(true, .opened "a" "sql" (some "SELECT * FROM t") true, 0.1),
        (false, .opened "b" "sql" none true, 0.2), (true, .detect, 0.1), (false, .close "b", 0.0),
        (true, .changed "a" none, 0.1), (false, .changed "b" none, 0.0)]
    let alone : List (Action × Float) :=
      [(.opened "b" "sql" none true, 0.1), (.close "b", 0.0), (.changed "b" none, 0.0)]
    let together := history.map Prod.snd
    Pairwise (fun i j => Disjoint (uris i) (uris j)) ∧
    (∀ x ∈ history, ∀ uri, x.2.1.uri? = some uri → uri ∈ uris x.1) ∧
    alone.map Prod.fst = (history.filter fun x => x.1 = false).map (fun x => x.2.1) ∧
    alone.map Prod.fst = (together.map Prod.fst).filter (fun a => a.uri? = some "b") ∧
    SameAt "b" ((new none).replay {} together) ((new none).replay {} alone) ∧
    ((history.zip ((new none).results {} together)).filter fun e =>
        e.1.1 = false && !e.1.2.1.followsFocus).map Prod.snd
      = ((alone.zip ((new none).results {} alone)).filter fun e =>
        !e.1.1.followsFocus).map Prod.snd := by
  intro uris history alone together
  have hdisjoint : Pairwise fun i j => Disjoint (uris i) (uris j) := by
    intro i j hij
    cases i <;> cases j <;> simp_all [uris]
  have howns : ∀ x ∈ history, ∀ uri, x.2.1.uri? = some uri → uri ∈ uris x.1 := by
    simp [history, uris, Action.uri?]
  have halone : alone.map Prod.fst
      = (history.filter fun x => x.1 = false).map (fun x => x.2.1) := rfl
  have hnamed : alone.map Prod.fst
      = (together.map Prod.fst).filter (fun a => a.uri? = some "b") := by decide
  obtain ⟨hone, hclients⟩ := documents_do_not_interfere {}
  exact ⟨hdisjoint, howns, halone, hnamed, (hone "b" together alone hnamed).1,
    (hclients Bool uris history hdisjoint howns false alone halone).2⟩

end Session

end QueryLint
