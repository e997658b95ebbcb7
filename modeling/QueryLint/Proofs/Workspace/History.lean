import Mathlib.Data.List.Basic
import QueryLint.Workspace

/-!
# The workspace is a function of its history

`carriedOut` is what remains of a history once the operations that fail are left out.  It determines
everything about the documents and the active one: `Lifetime` says when an open document came into
being and what was carried out since, `OpenAfter` and `ActiveAfter` which documents are open and
which one is active.  `Reflects` puts this together; one operation keeps it (`Reflects.perform`),
and so does a history (`Reflects.replay`).
-/

namespace QueryLint

namespace Workspace

/-! ### Operations -/

namespace Action

/-- The document that an operation is about. -/
def uri : Action → String
  | openDocument u _ _ _ | changeDocument u _ | focus u | closeDocument u => u

/-- Whether an operation opens the document. -/
def opens (uri : String) : Action → Bool
  | openDocument u _ _ _ => u = uri
  | _ => false

/-- The text that an operation gives to the document; no text is the empty text. -/
def text? (uri : String) : Action → Option String
  | openDocument u _ t _ | changeDocument u t => if u = uri then some (t.getD "") else none
  | _ => none

/-- The language id that an operation gives to the document. -/
def languageId? (uri : String) : Action → Option Json.Text
  | openDocument u l _ _ => if u = uri then some l else none
  | _ => none

/-- Whether an operation edits the document; opening it again is an edit too. -/
def edits (uri : String) (a : Action) : Bool :=
  (a.text? uri).isSome

/-- The document to which an operation gives the focus. -/
def activates? : Action → Option String
  | openDocument u _ _ activate => if activate then some u else none
  | focus u => some u
  | _ => none

end Action

variable {w w' : Workspace} {a : Action} {uri : String} {d : Document} {shown : Option Document}
  {done before since : List Action} {created : Action}

/-- The operations of a history that do not fail, in order. -/
def carriedOut (w : Workspace) : List Action → List Action
  | [] => []
  | a :: rest =>
    match w.perform a with
    | .ok (w', _) => a :: w'.carriedOut rest
    | .error _ => w.carriedOut rest

/-! ### What an operation does -/

lemma perform_openDocument (uri : String) (languageId : Json.Text) (text : Option String)
    (activate : Bool) :
    w.perform (.openDocument uri languageId text activate)
      = .ok ({ w with
          documents := w.documents.insert uri (w.opened uri languageId text)
          active := if activate then some uri else w.active },
        some (w.opened uri languageId text)) := rfl

lemma perform_changeDocument {text : Option String} (h : w.documents.get? uri = some d) :
    w.perform (.changeDocument uri text)
      = .ok ({ w with documents := w.documents.insert uri (edited d text) },
          some (edited d text)) := by
  rw [perform, changeDocument_of_open h]
  rfl

lemma perform_focus (h : w.documents.get? uri = some d) :
    w.perform (.focus uri) = .ok ({ w with active := some uri }, some d) := by
  rw [perform, focus_of_open h]
  rfl

lemma perform_closeDocument (h : w.documents.get? uri = some d) :
    w.perform (.closeDocument uri)
      = .ok (⟨w.documents.erase uri, w.diagnostics.delete uri,
          if w.active = some uri then none else w.active⟩, none) := by
  rw [perform, closeDocument_of_open h]
  rfl

/-- An operation fails exactly if its document is not open; opening never fails. -/
lemma perform_eq_error_iff {f : Failure} :
    w.perform a = .error f ↔
      a.opens a.uri = false ∧ w.documents.get? a.uri = none ∧ f = .documentNotOpen a.uri := by
  cases a with
  | openDocument u l t activate => simp [perform_openDocument, Action.opens, Action.uri]
  | changeDocument u t =>
    cases hd : w.documents.get? u with
    | none =>
      simp [perform, changeDocument_of_not_open hd, Except.map, Action.opens, Action.uri, hd,
        eq_comm]
    | some d => simp [perform_changeDocument hd, Action.uri, hd]
  | focus u =>
    cases hd : w.documents.get? u with
    | none =>
      simp [perform, focus_of_not_open hd, Except.map, Action.opens, Action.uri, hd, eq_comm]
    | some d => simp [perform_focus hd, Action.uri, hd]
  | closeDocument u =>
    cases hd : w.documents.get? u with
    | none =>
      simp [perform, closeDocument_of_not_open hd, Except.map, Action.opens, Action.uri, hd,
        eq_comm]
    | some d => simp [perform_closeDocument hd, Action.uri, hd]

/-- **What one operation does**: the four cases in which it does not fail. -/
theorem perform_cases (h : w.perform a = .ok (w', shown)) :
    (∃ uri languageId text activate, a = .openDocument uri languageId text activate ∧
      w' = { w with
        documents := w.documents.insert uri (w.opened uri languageId text)
        active := if activate then some uri else w.active }) ∨
    (∃ uri text d, a = .changeDocument uri text ∧ w.documents.get? uri = some d ∧
      w' = { w with documents := w.documents.insert uri (edited d text) }) ∨
    (∃ uri d, a = .focus uri ∧ w.documents.get? uri = some d ∧ w' = { w with active := some uri }) ∨
    (∃ uri d, a = .closeDocument uri ∧ w.documents.get? uri = some d ∧
      w' = ⟨w.documents.erase uri, w.diagnostics.delete uri,
        if w.active = some uri then none else w.active⟩) := by
  cases a with
  | openDocument u l t activate =>
    rw [perform_openDocument] at h
    cases h
    exact .inl ⟨u, l, t, activate, rfl, rfl⟩
  | changeDocument u t =>
    cases hd : w.documents.get? u with
    | none =>
      rw [perform_eq_error_iff.mpr ⟨rfl, hd, rfl⟩] at h
      cases h
    | some d =>
      rw [perform_changeDocument hd] at h
      cases h
      exact .inr (.inl ⟨u, t, d, rfl, hd, rfl⟩)
  | focus u =>
    cases hd : w.documents.get? u with
    | none =>
      rw [perform_eq_error_iff.mpr ⟨rfl, hd, rfl⟩] at h
      cases h
    | some d =>
      rw [perform_focus hd] at h
      cases h
      exact .inr (.inr (.inl ⟨u, d, rfl, hd, rfl⟩))
  | closeDocument u =>
    cases hd : w.documents.get? u with
    | none =>
      rw [perform_eq_error_iff.mpr ⟨rfl, hd, rfl⟩] at h
      cases h
    | some d =>
      rw [perform_closeDocument hd] at h
      cases h
      exact .inr (.inr (.inr ⟨u, d, rfl, hd, rfl⟩))

/-- A document after an operation that does not close it. -/
def heed (a : Action) (d : Document) : Document where
  uri := d.uri
  languageId := (a.languageId? d.uri).getD d.languageId
  version := if a.edits d.uri then d.version + 1 else d.version
  text := (a.text? d.uri).getD d.text

lemma heed_of_ne (h : a.uri ≠ d.uri) : heed a d = d := by
  apply Document.ext <;>
    cases a <;> simp_all [heed, Action.uri, Action.edits, Action.text?, Action.languageId?]

/-- Where a document comes from that is open after an operation. -/
lemma get?_of_perform (h : w.perform a = .ok (w', shown))
    (huri : ∀ uri d, w.documents.get? uri = some d → d.uri = uri)
    (hd : w'.documents.get? uri = some d) :
    a ≠ .closeDocument uri ∧
      ((∃ d₀, w.documents.get? uri = some d₀ ∧ d = heed a d₀) ∨
        (w.documents.get? uri = none ∧ ∃ languageId text activate,
          a = .openDocument uri languageId text activate ∧ d = .create uri languageId 1 text)) := by
  have other (hd : w.documents.get? uri = some d) (hne : a.uri ≠ uri) : d = heed a d :=
    (heed_of_ne (huri uri d hd ▸ hne)).symm
  rcases perform_cases h with ⟨u, l, t, activate, rfl, rfl⟩ | ⟨u, t, d₀, rfl, hd₀, rfl⟩ |
    ⟨u, d₀, rfl, hd₀, rfl⟩ | ⟨u, d₀, rfl, hd₀, rfl⟩
  · refine ⟨by simp, ?_⟩
    rw [Table.get?_insert] at hd
    split at hd
    next heq =>
      subst heq
      cases hd
      cases hd₀ : w.documents.get? uri with
      | none =>
        refine .inr ⟨rfl, l, t, activate, rfl, ?_⟩
        rw [opened, hd₀]
      | some d₀ =>
        refine .inl ⟨d₀, rfl, ?_⟩
        have := huri uri d₀ hd₀
        simp [opened, hd₀, heed, edited, Document.setText, Action.edits, Action.text?,
          Action.languageId?, this]
    next hne => exact .inl ⟨d, hd, other hd fun heq => hne heq.symm⟩
  · refine ⟨by simp, .inl ?_⟩
    rw [Table.get?_insert] at hd
    split at hd
    next heq =>
      subst heq
      cases hd
      refine ⟨d₀, hd₀, ?_⟩
      have := huri uri d₀ hd₀
      simp [heed, edited, Document.setText, Action.edits, Action.text?, Action.languageId?, this]
    next hne => exact ⟨d, hd, other hd fun heq => hne heq.symm⟩
  · exact ⟨by simp, .inl ⟨d, hd, Document.ext rfl rfl rfl rfl⟩⟩
  · rw [Table.get?_erase] at hd
    split at hd
    next => cases hd
    next hne =>
      have hne : u ≠ uri := fun heq => hne heq.symm
      exact ⟨by simpa using hne, .inl ⟨d, hd, other hd hne⟩⟩

/-! ### What a history says -/

/-- Some operation `starts`, and none after it `ends`. -/
def Since (starts ends : Action → Prop) (done : List Action) : Prop :=
  ∃ before a since, done = before ++ a :: since ∧ starts a ∧ ∀ b ∈ since, ¬ ends b

/-- The document was opened and not closed since. -/
def OpenAfter (done : List Action) (uri : String) : Prop :=
  Since (fun a => a.opens uri = true) (fun b => b = .closeDocument uri) done

/-- The latest operation that gave the focus to some document gave it to this one, which was not
closed since. -/
def ActiveAfter (done : List Action) (uri : String) : Prop :=
  Since (fun a => a.activates? = some uri)
    (fun b => b.activates? ≠ none ∨ b = .closeDocument uri) done

/-- The document that is open came into being by `created`, when it was not open, and was not closed
`since`. -/
structure Lifetime (done : List Action) (uri : String) (before : List Action) (created : Action)
    (since : List Action) : Prop where
  split : done = before ++ created :: since
  opens : created.opens uri = true
  fresh : ¬ OpenAfter before uri
  standing : .closeDocument uri ∉ since

/-- The one document came into being before the other. -/
def Precedes (done : List Action) (u v : String) : Prop :=
  ∃ before created since before' created' since', Lifetime done u before created since ∧
    Lifetime done v before' created' since' ∧ before.length < before'.length

/-- The document is what its lifetime has made of it: the version counts the edits, text and
language id are the latest that were given to it. -/
structure Recorded (created : Action) (since : List Action) (d : Document) : Prop where
  version : d.version = 1 + since.countP (Action.edits d.uri)
  text : ((created :: since).filterMap (Action.text? d.uri)).getLast? = some d.text
  languageId :
    ((created :: since).filterMap (Action.languageId? d.uri)).getLast? = some d.languageId

lemma concat_eq_append_cons_iff {α : Type} {l before since : List α} {a c : α} :
    l ++ [a] = before ++ c :: since ↔
      (before = l ∧ c = a ∧ since = []) ∨ ∃ since', since = since' ++ [a] ∧
        l = before ++ c :: since' := by
  constructor
  · intro h
    rcases List.eq_nil_or_concat' since with rfl | ⟨since', b, rfl⟩
    · obtain ⟨rfl, hc⟩ := List.append_inj' h rfl
      cases hc
      exact .inl ⟨rfl, rfl, rfl⟩
    · rw [← List.cons_append, ← List.append_assoc] at h
      obtain ⟨rfl, hb⟩ := List.append_inj' h rfl
      cases hb
      exact .inr ⟨since', rfl, rfl⟩
  · rintro (⟨rfl, rfl, rfl⟩ | ⟨since', rfl, rfl⟩)
    · rfl
    · simp

lemma since_concat_iff {starts ends : Action → Prop} :
    Since starts ends (done ++ [a]) ↔ starts a ∨ (Since starts ends done ∧ ¬ ends a) := by
  constructor
  · rintro ⟨before, c, since, hsplit, hc, hsince⟩
    rcases concat_eq_append_cons_iff.mp hsplit with ⟨rfl, rfl, rfl⟩ | ⟨since', rfl, rfl⟩
    · exact .inl hc
    · refine .inr ⟨⟨before, c, since', rfl, hc, fun b hb => hsince b ?_⟩, hsince a ?_⟩
      · exact List.mem_append_left _ hb
      · simp
  · rintro (ha | ⟨⟨before, c, since, rfl, hc, hsince⟩, ha⟩)
    · exact ⟨done, a, [], rfl, ha, by simp⟩
    · refine ⟨before, c, since ++ [a], by simp, hc, fun b hb => ?_⟩
      rcases List.mem_append.mp hb with hb | hb
      · exact hsince b hb
      · rw [List.mem_singleton.mp hb]
        exact ha

lemma not_since_nil {starts ends : Action → Prop} : ¬ Since starts ends [] := by
  rintro ⟨before, c, since, h, -⟩
  simp at h

lemma lifetime_concat (h : Lifetime done uri before created since) (ha : a ≠ .closeDocument uri) :
    Lifetime (done ++ [a]) uri before created (since ++ [a]) where
  split := by rw [h.split, List.append_assoc, List.cons_append]
  opens := h.opens
  fresh := h.fresh
  standing := by
    have := h.standing
    simp_all [eq_comm]

lemma lifetime_of_opens (ha : a.opens uri = true) (h : ¬ OpenAfter done uri) :
    Lifetime (done ++ [a]) uri done a [] :=
  ⟨rfl, ha, h, by simp⟩

lemma Lifetime.not_lt {before' since' : List Action} {created' : Action}
    (h : Lifetime done uri before created since)
    (h' : Lifetime done uri before' created' since') : ¬ before.length < before'.length := by
  -- during the earlier of two lifetimes the document would be open when the later one begins
  intro hlt
  obtain ⟨mid, hbefore, hmid⟩ : ∃ mid, before' = before ++ created :: mid ∧
      since = mid ++ created' :: since' := by
    rcases List.append_eq_append_iff.mp (h.split.symm.trans h'.split) with
      ⟨rest, hb, hs⟩ | ⟨rest, hb, -⟩
    · cases rest with
      | nil => simp [hb] at hlt
      | cons x mid =>
        rw [List.cons_append, List.cons.injEq] at hs
        exact ⟨mid, by rw [hb, hs.1], hs.2⟩
    · rw [hb, List.length_append] at hlt
      omega
  refine h'.fresh ⟨before, created, mid, hbefore, h.opens, fun b hb heq => h.standing ?_⟩
  rw [hmid, ← heq]
  exact List.mem_append_left _ hb

/-- A document has one lifetime only. -/
lemma Lifetime.length_eq {before' since' : List Action} {created' : Action}
    (h : Lifetime done uri before created since)
    (h' : Lifetime done uri before' created' since') : before.length = before'.length := by
  have := h.not_lt h'
  have := h'.not_lt h
  omega

/-- What is known about a document is still known after an operation that does not close it. -/
lemma Recorded.concat (h : Recorded created since d) :
    Recorded created (since ++ [a]) (heed a d) where
  version := by
    rw [show (heed a d).uri = d.uri from rfl, List.countP_append, List.countP_singleton]
    simp only [heed, h.version]
    split <;> push_cast <;> omega
  text := by
    rw [← List.cons_append, List.filterMap_append, List.getLast?_append,
      show (heed a d).uri = d.uri from rfl, h.text]
    simp only [heed]
    cases ht : a.text? d.uri <;> simp [ht]
  languageId := by
    rw [← List.cons_append, List.filterMap_append, List.getLast?_append,
      show (heed a d).uri = d.uri from rfl, h.languageId]
    simp only [heed]
    cases hl : a.languageId? d.uri <;> simp [hl]

lemma recorded_create {languageId : Json.Text} {text : Option String} {activate : Bool} :
    Recorded (.openDocument uri languageId text activate) []
      (.create uri languageId 1 text) where
  version := rfl
  text := by simp [Document.create, Action.text?]
  languageId := by simp [Document.create, Action.languageId?]

/-! ### The workspace reflects what was carried out -/

/-- The workspace is what the operations carried out so far have made of it. -/
structure Reflects (done : List Action) (w : Workspace) : Prop where
  uri_eq : ∀ uri d, w.documents.get? uri = some d → d.uri = uri
  mem_keys : ∀ uri, uri ∈ w.documents.keys ↔ OpenAfter done uri
  recorded : ∀ uri d, w.documents.get? uri = some d →
    ∃ before created since, Lifetime done uri before created since ∧ Recorded created since d
  ordered : w.documents.keys.Pairwise (Precedes done)
  active_iff : ∀ uri, w.active = some uri ↔ ActiveAfter done uri
  active_mem : ∀ uri, w.active = some uri → uri ∈ w.documents.keys

lemma reflects_new (collection : Option DiagnosticCollection) : Reflects [] (new collection) where
  uri_eq := fun _ _ h => by cases h
  mem_keys := fun _ => ⟨fun h => (by cases h), fun h => absurd h not_since_nil⟩
  recorded := fun _ _ h => by cases h
  ordered := .nil
  active_iff := fun _ => ⟨fun h => (by cases h), fun h => absurd h not_since_nil⟩
  active_mem := fun _ h => by cases h

lemma mem_keys_of_perform (h : w.perform a = .ok (w', shown)) :
    uri ∈ w'.documents.keys ↔
      a.opens uri = true ∨ (uri ∈ w.documents.keys ∧ a ≠ .closeDocument uri) := by
  rcases perform_cases h with ⟨u, l, t, activate, rfl, rfl⟩ | ⟨u, t, d, rfl, hd, rfl⟩ |
    ⟨u, d, rfl, hd, rfl⟩ | ⟨u, d, rfl, hd, rfl⟩
  · simp [Table.mem_keys_insert, Action.opens, eq_comm]
  · simp [Table.keys_insert_of_mem _ (Table.mem_keys_iff.mpr ⟨d, hd⟩), Action.opens]
  · simp [Action.opens]
  · simp [Table.mem_keys_erase, Action.opens, eq_comm]

/-- An operation keeps the order of the documents, and one that it creates comes last. -/
lemma keys_of_perform (h : w.perform a = .ok (w', shown)) :
    w'.documents.keys.Sublist w.documents.keys ∨
      ∃ uri, uri ∉ w.documents.keys ∧ w'.documents.keys = w.documents.keys ++ [uri] := by
  rcases perform_cases h with ⟨u, l, t, activate, rfl, rfl⟩ | ⟨u, t, d, rfl, hd, rfl⟩ |
    ⟨u, d, rfl, hd, rfl⟩ | ⟨u, d, rfl, hd, rfl⟩
  · by_cases hu : u ∈ w.documents.keys
    · refine .inl ?_
      rw [Table.keys_insert_of_mem _ hu]
    · exact .inr ⟨u, hu, Table.keys_insert_of_notMem _ hu⟩
  · refine .inl ?_
    rw [Table.keys_insert_of_mem _ (Table.mem_keys_iff.mpr ⟨d, hd⟩)]
  · exact .inl (List.Sublist.refl _)
  · refine .inl ?_
    rw [Table.keys_erase]
    exact List.filter_sublist

lemma active_of_perform (h : w.perform a = .ok (w', shown)) :
    w'.active = some uri ↔
      a.activates? = some uri ∨
        (w.active = some uri ∧ ¬ (a.activates? ≠ none ∨ a = .closeDocument uri)) := by
  rcases perform_cases h with ⟨u, l, t, activate, rfl, rfl⟩ | ⟨u, t, d, rfl, hd, rfl⟩ |
    ⟨u, d, rfl, hd, rfl⟩ | ⟨u, d, rfl, hd, rfl⟩
  · cases activate <;> simp [Action.activates?]
  · simp [Action.activates?]
  · simp [Action.activates?]
  · by_cases hu : w.active = some u
    · simp_all [Action.activates?]
    · simp only [Action.activates?, hu, if_false]
      constructor
      · intro huri
        refine .inr ⟨huri, ?_⟩
        rintro (hnone | heq)
        · exact hnone rfl
        · cases heq
          exact hu huri
      · rintro (hnone | ⟨huri, -⟩)
        · cases hnone
        · exact huri

lemma mem_keys_of_activates (h : w.perform a = .ok (w', shown)) (ha : a.activates? = some uri) :
    uri ∈ w'.documents.keys := by
  rw [mem_keys_of_perform h]
  rcases perform_cases h with ⟨u, l, t, activate, rfl, rfl⟩ | ⟨u, t, d, rfl, hd, rfl⟩ |
    ⟨u, d, rfl, hd, rfl⟩ | ⟨u, d, rfl, hd, rfl⟩
  · simp_all [Action.activates?, Action.opens]
  · cases ha
  · cases ha
    exact .inr ⟨Table.mem_keys_iff.mpr ⟨d, hd⟩, by simp⟩
  · cases ha

lemma Reflects.ordered_perform (hw : Reflects done w) (h : w.perform a = .ok (w', shown)) :
    w'.documents.keys.Pairwise (Precedes (done ++ [a])) := by
  have hopen {u : String} (hu : u ∈ w'.documents.keys) :
      a.opens u = true ∨ (u ∈ w.documents.keys ∧ a ≠ .closeDocument u) :=
    (mem_keys_of_perform h).mp hu
  have hclose {u : String} (hu : u ∈ w'.documents.keys) : a ≠ .closeDocument u := by
    rcases hopen hu with ha | ⟨-, ha⟩
    · rintro rfl
      cases ha
    · exact ha
  have hold : ∀ {u v}, u ∈ w'.documents.keys → v ∈ w'.documents.keys → Precedes done u v →
      Precedes (done ++ [a]) u v := by
    rintro u v hu hv ⟨_, _, _, _, _, _, hu', hv', hlt⟩
    exact ⟨_, _, _, _, _, _, lifetime_concat hu' (hclose hu), lifetime_concat hv' (hclose hv), hlt⟩
  rcases keys_of_perform h with hsub | ⟨v, hv, hkeys⟩
  · exact (hw.ordered.sublist hsub).imp_of_mem hold
  · rw [hkeys] at hopen hclose hold ⊢
    refine List.pairwise_append.mpr ⟨?_, List.pairwise_singleton _ _, ?_⟩
    · refine hw.ordered.imp_of_mem fun hu hv => hold ?_ ?_
      · exact List.mem_append_left _ hu
      · exact List.mem_append_left _ hv
    · intro u hu v' hv'
      obtain rfl := List.mem_singleton.mp hv'
      -- the new document begins with this operation, every other one began before it
      have hcreated : a.opens v' = true := (hopen (by simp)).resolve_right fun hv' => hv hv'.1
      have hnew : ¬ OpenAfter done v' := fun ho => hv ((hw.mem_keys v').mpr ho)
      obtain ⟨d, hd⟩ := Table.mem_keys_iff.mp hu
      obtain ⟨before, created, since, hlife, -⟩ := hw.recorded u d hd
      refine ⟨_, _, _, _, _, _, lifetime_concat hlife (hclose (List.mem_append_left _ hu)),
        lifetime_of_opens hcreated hnew, ?_⟩
      rw [hlife.split]
      simp

/-- **One operation** that does not fail is reflected by the workspace after it. -/
theorem Reflects.perform (hw : Reflects done w) (h : w.perform a = .ok (w', shown)) :
    Reflects (done ++ [a]) w' := by
  have hrecorded : ∀ uri d, w'.documents.get? uri = some d → d.uri = uri ∧
      ∃ before created since, Lifetime (done ++ [a]) uri before created since ∧
        Recorded created since d := by
    intro uri d hd
    obtain ⟨hclose, ⟨d₀, hd₀, rfl⟩ | ⟨hnone, l, t, activate, rfl, rfl⟩⟩ :=
      get?_of_perform h hw.uri_eq hd
    · obtain ⟨before, created, since, hlife, hrec⟩ := hw.recorded uri d₀ hd₀
      exact ⟨hw.uri_eq uri d₀ hd₀, before, created, since ++ [a], lifetime_concat hlife hclose,
        hrec.concat⟩
    · have hnew : ¬ OpenAfter done uri := fun ho =>
        Table.get?_eq_none_iff.mp hnone ((hw.mem_keys uri).mpr ho)
      exact ⟨rfl, done, _, [], lifetime_of_opens (by simp [Action.opens]) hnew, recorded_create⟩
  refine ⟨fun uri d hd => (hrecorded uri d hd).1, fun uri => ?_,
    fun uri d hd => (hrecorded uri d hd).2, hw.ordered_perform h, fun uri => ?_, fun uri huri => ?_⟩
  · rw [mem_keys_of_perform h, hw.mem_keys, OpenAfter, OpenAfter, since_concat_iff]
  · rw [active_of_perform h, hw.active_iff, ActiveAfter, ActiveAfter, since_concat_iff]
  · rcases (active_of_perform h).mp huri with ha | ⟨hactive, ha⟩
    · exact mem_keys_of_activates h ha
    · exact (mem_keys_of_perform h).mpr
        (.inr ⟨hw.active_mem uri hactive, fun hclose => ha (.inr hclose)⟩)

/-- **A history** is reflected by the workspace after it; operations that fail leave no trace. -/
theorem Reflects.replay (hw : Reflects done w) (history : List Action) :
    Reflects (done ++ w.carriedOut history) (w.replay history) := by
  induction history generalizing done w with
  | nil => simpa [carriedOut] using hw
  | cons a history ih =>
    rw [replay_cons, carriedOut, after]
    cases h : w.perform a with
    | error f => exact ih hw
    | ok p =>
      obtain ⟨w', shown⟩ := p
      have := ih (hw.perform h)
      rwa [List.append_assoc, List.singleton_append] at this

lemma Reflects.not_active_after_close (hw : Reflects done w) :
    (w.after (.closeDocument uri)).active ≠ some uri := by
  intro hactive
  rw [after] at hactive
  cases h : w.perform (.closeDocument uri) with
  | error f =>
    rw [h] at hactive
    obtain ⟨d, hd⟩ := Table.mem_keys_iff.mp (hw.active_mem uri hactive)
    rw [perform_closeDocument hd] at h
    cases h
  | ok p =>
    rw [h] at hactive
    rcases (active_of_perform h).mp hactive with ha | ⟨-, ha⟩
    · cases ha
    · exact ha (.inr rfl)

lemma not_active_replay {history : List Action} (h : w.active ≠ some uri)
    (hhistory : ∀ a ∈ history, a.activates? ≠ some uri) :
    (w.replay history).active ≠ some uri := by
  induction history generalizing w with
  | nil => exact h
  | cons a history ih =>
    refine ih (fun hactive => ?_) fun b hb => hhistory b (List.mem_cons_of_mem a hb)
    rw [after] at hactive
    split at hactive
    next w' shown hperform =>
      rcases (active_of_perform hperform).mp hactive with ha | ⟨hw, -⟩
      · exact hhistory a List.mem_cons_self ha
      · exact h hw
    next => exact h hactive

lemma Reflects.activeDocument_eq_some_iff (hw : Reflects done w) :
    w.activeDocument = some d ↔ ∃ uri, ActiveAfter done uri ∧ w.documents.get? uri = some d := by
  simp only [activeDocument, Option.bind_eq_some_iff, hw.active_iff]

lemma Reflects.activeDocument_eq_none_iff (hw : Reflects done w) :
    w.activeDocument = none ↔ ∀ uri, ¬ ActiveAfter done uri := by
  constructor
  · intro hnone uri huri
    have hactive := (hw.active_iff uri).mpr huri
    obtain ⟨d, hd⟩ := Table.mem_keys_iff.mp (hw.active_mem uri hactive)
    rw [activeDocument, hactive, Option.bind_some, hd] at hnone
    cases hnone
  · intro h
    rw [Option.eq_none_iff_forall_not_mem]
    intro d hd
    obtain ⟨uri, huri, -⟩ := hw.activeDocument_eq_some_iff.mp hd
    exact h uri huri

/-- **The workspace is a function of its history.**  With `done` the operations that did not fail:
an operation fails exactly if its document is not open; the open documents stand under their URIs in
the order in which they came into being; version, text and language id are what was carried out
since then; and the active document is the one that got the focus last, unless it was closed since.
So the active document is open, and a document that was closed does not become active again until an
operation activates it. -/
theorem replay_faithful_to_history (collection : Option DiagnosticCollection)
    (history : List Action) :
    let w := (new collection).replay history
    let done := (new collection).carriedOut history
    (∀ a f, w.perform a = .error f ↔
      a.opens a.uri = false ∧ ¬ OpenAfter done a.uri ∧ f = .documentNotOpen a.uri) ∧
    (w.documents.keys.Nodup ∧ (∀ uri, uri ∈ w.documents.keys ↔ OpenAfter done uri) ∧
      w.documents.keys.Pairwise fun u v => ∀ before created since before' created' since',
        Lifetime done u before created since → Lifetime done v before' created' since' →
          before.length < before'.length) ∧
    (∀ uri d, w.documents.get? uri = some d → d.uri = uri ∧
      ∃ before created since, Lifetime done uri before created since ∧
        d.version = 1 + since.countP (Action.edits uri) ∧
        ((created :: since).filterMap (Action.text? uri)).getLast? = some d.text ∧
        ((created :: since).filterMap (Action.languageId? uri)).getLast? = some d.languageId) ∧
    ((∀ d, w.activeDocument = some d ↔
        ∃ uri, ActiveAfter done uri ∧ w.documents.get? uri = some d) ∧
      (w.activeDocument = none ↔ ∀ uri, ¬ ActiveAfter done uri) ∧
      (∀ uri, w.active = some uri ↔ ActiveAfter done uri)) ∧
    (∀ uri, w.active = some uri → uri ∈ w.documents.keys) ∧
    ∀ uri later, (∀ a ∈ later, a.activates? ≠ some uri) →
      ((w.after (.closeDocument uri)).replay later).active ≠ some uri := by
  intro w done
  have hw : Reflects done w := by
    have := (reflects_new collection).replay history
    rwa [List.nil_append] at this
  refine ⟨fun a f => ?_, ⟨w.documents.nodup_keys, hw.mem_keys, ?_⟩, fun uri d hd => ?_,
    ⟨fun d => hw.activeDocument_eq_some_iff, hw.activeDocument_eq_none_iff, hw.active_iff⟩,
    hw.active_mem, fun uri later hlater => not_active_replay hw.not_active_after_close hlater⟩
  · rw [perform_eq_error_iff, Table.get?_eq_none_iff, hw.mem_keys]
  · refine hw.ordered.imp ?_
    rintro u v ⟨_, _, _, _, _, _, hu, hv, hlt⟩ _ _ _ _ _ _ hu' hv'
    rwa [← hu.length_eq hu', ← hv.length_eq hv']
  · have huri := hw.uri_eq uri d hd
    obtain ⟨before, created, since, hlife, hrec⟩ := hw.recorded uri d hd
    subst huri
    exact ⟨rfl, before, created, since, hlife, hrec.version, hrec.text, hrec.languageId⟩

/-- A document that is closed and opened again starts a new life behind the others; the operation
that fails counts for nothing. -/
theorem reopened_document_faithful_to_history :
    let history : List Action := [.openDocument "a" "sql" (some "x") true,
      .openDocument "b" "sql" none false, .closeDocument "a", .focus "a",
      .openDocument "a" "text" none false, .changeDocument "a" (some "y")]
    let w := (new none).replay history
    let done := (new none).carriedOut history
    w.documents.keys = ["b", "a"] ∧ w.documents.get? "a" = some (.create "a" "text" 2 (some "y")) ∧
    (∃ before created since, Lifetime done "a" before created since ∧
      (2 : Int) = 1 + since.countP (Action.edits "a") ∧
      ((created :: since).filterMap (Action.text? "a")).getLast? = some "y" ∧
      ((created :: since).filterMap (Action.languageId? "a")).getLast? = some ↑"text") ∧
    ((w.after (.closeDocument "a")).replay [.openDocument "a" "sql" none false]).active
      ≠ some "a" := by
  intro history w done
  have hkeys : w.documents.keys = ["b", "a"] := by decide
  have hd : w.documents.get? "a" = some (.create "a" "text" 2 (some "y")) := by decide
  obtain ⟨-, -, hdocuments, -, -, hclosed⟩ := replay_faithful_to_history none history
  refine ⟨hkeys, hd, (hdocuments "a" _ hd).2, hclosed "a" _ ?_⟩
  decide

end Workspace

end QueryLint
