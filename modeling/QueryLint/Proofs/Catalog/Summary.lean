import Mathlib.Data.List.Nodup
import QueryLint.Proofs.Catalog.Matching
import QueryLint.Session

/-!
# Summary mode and detailed mode

Summary mode asks each rule whether it matches at all, detailed mode asks for all its matches.  Both
see the same rules, in the same order (`eraseDups_map_analyze`).  Messages and names of the catalog
are pairwise distinct, so a message tells its rule: no two rules are merged when later duplicates are
dropped, and `ruleName?` finds the name of every message that is reported.
-/

namespace QueryLint

/-! ### Dropping later duplicates -/

lemma eraseDups_eq_singleton {α : Type} [BEq α] [LawfulBEq α] {l : List α} {a : α} (hne : l ≠ [])
    (h : ∀ b ∈ l, b = a) : l.eraseDups = [a] := by
  obtain ⟨b, l, rfl⟩ := List.exists_cons_of_ne_nil hne
  have hb : b = a := h b List.mem_cons_self
  have hrest : l.filter (fun c => !c == b) = [] := by
    rw [List.filter_eq_nil_iff]
    intro c hc
    simp [h c (List.mem_cons_of_mem b hc), hb]
  rw [List.eraseDups_cons, hrest, hb, List.eraseDups_nil]

/-- Blocks that each repeat one value, different blocks different ones: one value for each block that
is not empty remains. -/
theorem eraseDups_flatMap {α β : Type} [BEq β] [LawfulBEq β] {l : List α} {f : α → List β}
    {g : α → β} (hf : ∀ a ∈ l, ∀ b ∈ f a, b = g a) (hg : (l.map g).Nodup) :
    (l.flatMap f).eraseDups = (l.filter fun a => !(f a).isEmpty).map g := by
  induction l with
  | nil => rfl
  | cons a l ih =>
    obtain ⟨hnotMem, hnodup⟩ := List.nodup_cons.mp hg
    have ih' := ih (fun b hb => hf b (List.mem_cons_of_mem a hb)) hnodup
    have hapart : (l.flatMap f).removeAll (f a) = l.flatMap f := by
      rw [List.removeAll, List.filter_eq_self]
      intro b hb
      obtain ⟨a', ha', hba'⟩ := List.mem_flatMap.mp hb
      have hba : b ∉ f a := fun h => hnotMem (by
        rw [← hf a List.mem_cons_self b h, hf a' (List.mem_cons_of_mem a ha') b hba']
        exact List.mem_map_of_mem ha')
      simpa using hba
    rw [List.flatMap_cons, List.eraseDups_append, hapart, ih']
    by_cases hempty : f a = []
    · simp [hempty]
    · rw [eraseDups_eq_singleton hempty (hf a List.mem_cons_self)]
      simp [hempty]

lemma find?_eq_some_of_nodup {α β : Type} [BEq β] [LawfulBEq β] {l : List α} {f : α → β} {a : α}
    (hl : (l.map f).Nodup) (ha : a ∈ l) : l.find? (fun x => f x == f a) = some a := by
  induction l with
  | nil => cases ha
  | cons b l ih =>
    obtain ⟨hnotMem, hnodup⟩ := List.nodup_cons.mp hl
    rcases List.mem_cons.mp ha with rfl | ha
    · simp
    · have hne : f b ≠ f a := fun h => hnotMem (h ▸ List.mem_map_of_mem ha)
      rw [List.find?_cons_of_neg (by simpa using hne), ih hnodup ha]

/-! ### Messages and names tell rules apart -/

lemma nodup_messages : (catalog.map Rule.message).Nodup := by
  decide +kernel

lemma nodup_names : (catalog.map Rule.name).Nodup := by
  decide +kernel

theorem ruleName?_message {r : Rule} (h : r ∈ catalog) : ruleName? r.message = some r.name := by
  rw [ruleName?, find?_eq_some_of_nodup nodup_messages h, Option.map_some]

/-! ### The two modes -/

lemma Rule.firesOn_eq (r : Rule) (text : String) :
    r.firesOn text = !(r.findMatches text).isEmpty := by
  have h : r.findMatches text = [] ↔ r.firesOn text = false := by
    rw [findMatches, List.map_eq_nil_iff, firesOn, Pattern.spans_eq_nil_iff_occursIn]
  cases hf : r.firesOn text with
  | false => simp [h.mpr hf]
  | true =>
    have hne : r.findMatches text ≠ [] := fun he => by simp [h.mp he] at hf
    simpa using hne

/-- **The rules behind both modes.**  A field of findings that comes from the rule and differs from
rule to rule shows, once later duplicates are dropped, the rules that fire. -/
theorem eraseDups_map_analyze (text : String) {field : Finding → String} {g : Rule → String}
    (hfield : ∀ r s, field (Rule.finding r s) = g r) (hg : (catalog.map g).Nodup) :
    ((analyze text).map field).eraseDups = (firedRules text).map g := by
  have hblocks : (analyze text).map field
      = catalog.flatMap fun r => (r.findMatches text).map field := by
    rw [analyze, List.map_flatMap]
  rw [hblocks, eraseDups_flatMap _ hg, firedRules]
  · congr 2
    funext r
    rw [r.firesOn_eq, List.isEmpty_map]
  · intro r _ b hb
    obtain ⟨f, hf, rfl⟩ := List.mem_map.mp hb
    obtain ⟨s, -, rfl⟩ := List.mem_map.mp hf
    exact hfield r s

lemma level_notify (issues : List String) :
    ((notify issues).level = .warning ↔ issues ≠ []) ∧
      ((notify issues).level = .info ↔ issues = []) := by
  cases issues <;> simp [notify]

lemma map_ruleName?_summarize (text : String) :
    (summarize text).map ruleName? = ((firedRules text).map Rule.name).map some := by
  rw [summarize, List.map_map, List.map_map]
  apply List.map_congr_left
  intro r hr
  exact ruleName?_message (List.mem_of_mem_filter hr)

lemma filterMap_ruleName?_summarize (text : String) :
    (summarize text).filterMap ruleName? = (firedRules text).map Rule.name := by
  have h := congrArg (List.filterMap id) (map_ruleName?_summarize text)
  rw [List.filterMap_map, List.filterMap_map, Function.id_comp, Function.id_comp] at h
  rw [h, List.filterMap_some]

/-- **The two modes agree.**  Summary mode reports the messages of detailed mode without later
duplicates, so one is silent exactly if the other is; every issue of a notification belongs to a
named rule, and the names that are recorded for it are those of detailed mode, each once. -/
theorem summarize_agrees_with_analyze (text : String) (s : Session) (seconds : Float) :
    summarize text = ((analyze text).map (·.message)).eraseDups ∧
    (summarize text = [] ↔ analyze text = []) ∧
    (∀ issue ∈ (s.summarizeText seconds text).value.issues, (ruleName? issue).isSome) ∧
    (s.summarizeText seconds text).value.issues.map ruleName?
      = ((analyze text).map (·.rule)).eraseDups.map some ∧
    (s.summarizeText seconds text).session.metrics
      = s.metrics.recordAnalysis seconds summaryMode ((analyze text).map (·.rule)).eraseDups := by
  have hmessages : ((analyze text).map (·.message)).eraseDups = summarize text :=
    eraseDups_map_analyze text (fun _ _ => rfl) nodup_messages
  have hnames : ((analyze text).map (·.rule)).eraseDups = (firedRules text).map Rule.name :=
    eraseDups_map_analyze text (fun _ _ => rfl) nodup_names
  have hissues : (s.summarizeText seconds text).value.issues = summarize text := rfl
  rw [hissues, hnames]
  refine ⟨hmessages.symm, ?_, ?_, map_ruleName?_summarize text, ?_⟩
  · rw [← hmessages]
    constructor
    · intro h
      by_contra hne
      obtain ⟨f, fs, hf⟩ := List.exists_cons_of_ne_nil hne
      rw [hf, List.map_cons, List.eraseDups_cons] at h
      cases h
    · intro h
      rw [h]
      rfl
  · intro issue hissue
    have hmem : ruleName? issue ∈ (summarize text).map ruleName? := List.mem_map_of_mem hissue
    rw [map_ruleName?_summarize] at hmem
    obtain ⟨name, -, hname⟩ := List.mem_map.mp hmem
    rw [← hname]
    rfl
  · rw [← filterMap_ruleName?_summarize]
    rfl

end QueryLint
