import Mathlib.Data.Finset.Basic
import QueryLint.Document
import QueryLint.Proofs.Text.Lower

/-!
# The language ids of a setting are a set

The setting is one text of ids with commas between them.  Reading it takes the items one by one, so
a text of two parts has the ids of both (`languageIds_append`), and how often, in which order and
with how many blanks an id is written makes no difference.  An id that has been read is in its final
form (`IsFinal`): as an item of a setting it is read as itself.  So the ids can be written down and
read again.
-/

namespace QueryLint

/-! ### Items of a setting -/

/-- The ids of a text, given by its characters. -/
def idsOf (cs : List Char) : List String :=
  ((cs.splitOn ',').map (trimWhere isBlank)).filter (fun item => !item.isEmpty)
    |>.map fun item => lower (String.ofList item)

lemma languageIds_eq (ids : String) : languageIds ids = idsOf ids.toList := rfl

section Items

variable {cs xs ys b b' : List Char}

/-- A text is one item, or an item with a comma and a text behind it. -/
theorem items_induction {P : List Char → Prop} (cs : List Char)
    (item : ∀ xs, ',' ∉ xs → P xs) (append : ∀ xs ys, ',' ∉ xs → P ys → P (xs ++ ',' :: ys)) :
    P cs := by
  by_cases h : ',' ∈ cs
  · obtain ⟨xs, ys, hcs, hxs⟩ := List.eq_append_cons_of_mem h
    have hshorter : ys.length < cs.length := by
      rw [hcs, List.length_append, List.length_cons]
      omega
    rw [hcs]
    exact append xs ys hxs (items_induction ys item append)
  · exact item cs h
termination_by cs.length

lemma idsOf_append (xs ys : List Char) : idsOf (xs ++ ',' :: ys) = idsOf xs ++ idsOf ys := by
  simp only [idsOf, List.splitOn_append_cons_self, List.map_append, List.filter_append]

/-- The ids of an item: one, unless it is blank. -/
lemma idsOf_item (h : ',' ∉ cs) :
    idsOf cs = if trimWhere isBlank cs = [] then []
      else [lower (String.ofList (trimWhere isBlank cs))] := by
  rw [idsOf, List.splitOn_eq_singleton h]
  by_cases hblank : trimWhere isBlank cs = [] <;> simp [hblank]

lemma comma_notMem_of_isBlank (h : ∀ c ∈ b, isBlank c = true) : ',' ∉ b := by
  intro hmem
  have hcomma : isBlank ',' = false := by decide
  rw [h ',' hmem] at hcomma
  cases hcomma

lemma idsOf_blank (h : ∀ c ∈ b, isBlank c = true) : idsOf b = [] := by
  rw [idsOf_item (comma_notMem_of_isBlank h), trimWhere_eq_nil h, if_pos rfl]

/-- Blanks around a text do not matter. -/
lemma idsOf_pad (hb : ∀ c ∈ b, isBlank c = true) (hb' : ∀ c ∈ b', isBlank c = true) :
    idsOf (b ++ (cs ++ b')) = idsOf cs := by
  induction cs using items_induction generalizing b with
  | item xs hxs =>
    have hpadded : ',' ∉ b ++ (xs ++ b') := by
      simp [hxs, comma_notMem_of_isBlank hb, comma_notMem_of_isBlank hb']
    rw [idsOf_item hpadded, trimWhere_pad hb hb', ← idsOf_item hxs]
  | append xs ys hxs ih =>
    have hfirst : idsOf (b ++ xs) = idsOf xs := by
      have hpadded : ',' ∉ b ++ xs := by simp [hxs, comma_notMem_of_isBlank hb]
      have htrim : trimWhere isBlank (b ++ (xs ++ [])) = trimWhere isBlank xs :=
        trimWhere_pad hb (by simp)
      rw [List.append_nil] at htrim
      rw [idsOf_item hpadded, htrim, ← idsOf_item hxs]
    have hrest : idsOf (ys ++ b') = idsOf ys := ih (b := []) (by simp)
    have hsplit : b ++ (xs ++ ',' :: ys ++ b') = (b ++ xs) ++ ',' :: (ys ++ b') := by simp
    rw [hsplit, idsOf_append, hfirst, hrest, idsOf_append]

/-- An id in its final form: not empty, without a comma, and read as itself. -/
structure IsFinal (id : String) : Prop where
  ne_empty : id ≠ ""
  no_comma : ',' ∉ id.toList
  settled : languageIds id = [id]

lemma isFinal_lower (hne : cs ≠ []) (hcomma : ',' ∉ cs) (htrimmed : IsTrimmed cs) :
    IsFinal (lower (String.ofList cs)) := by
  have htoList : (lower (String.ofList cs)).toList = lowerFrom [] cs := by
    rw [lower, String.toList_ofList, String.toList_ofList]
  have hlower : lowerFrom [] cs ≠ [] := lowerFrom_ne_nil hne
  have hno : ',' ∉ lowerFrom [] cs := by
    intro hmem
    rcases mem_lowerFrom hmem with ⟨hold, -⟩ | hadded
    · exact hcomma hold
    · exact hadded.not_comma rfl
  refine ⟨?_, ?_, ?_⟩
  · intro hempty
    rw [hempty] at htoList
    exact hlower htoList.symm
  · rw [htoList]
    exact hno
  · have hagain : lower (String.ofList (lowerFrom [] cs)) = lower (String.ofList cs) := by
      rw [← htoList, String.ofList_toList, lower_lower]
    rw [languageIds_eq, htoList, idsOf_item hno, htrimmed.lowerFrom.trimWhere_eq, if_neg hlower,
      hagain]

lemma isFinal_of_mem_item {id : String} (hcs : ',' ∉ cs) (h : id ∈ idsOf cs) : IsFinal id := by
  rw [idsOf_item hcs] at h
  split at h
  next => cases h
  next hne =>
    have hcomma : ',' ∉ trimWhere isBlank cs := fun hmem => hcs (trimWhere_subset isBlank cs hmem)
    rw [List.mem_singleton] at h
    rw [h]
    exact isFinal_lower hne hcomma (isTrimmed_trimWhere cs)

/-- What is read is in its final form. -/
theorem isFinal_of_mem_idsOf {id : String} (h : id ∈ idsOf cs) : IsFinal id := by
  induction cs using items_induction with
  | item xs hxs => exact isFinal_of_mem_item hxs h
  | append xs ys hxs ih =>
    rw [idsOf_append, List.mem_append] at h
    exact h.elim (isFinal_of_mem_item hxs) ih

end Items

/-! ### Settings -/

section Settings

variable {a b s : String}

lemma languageIds_append (a b : String) :
    languageIds (a ++ "," ++ b) = languageIds a ++ languageIds b := by
  have hjoined : (a ++ "," ++ b).toList = a.toList ++ ',' :: b.toList := by
    simp [String.toList_append]
  rw [languageIds_eq, hjoined, idsOf_append]
  rfl

lemma languageIds_empty : languageIds "" = [] :=
  idsOf_blank (b := []) (by simp)

/-- The ids of joined texts are those of each text. -/
theorem languageIds_intercalate (items : List String) :
    languageIds (",".intercalate items) = items.flatMap languageIds := by
  induction items with
  | nil => exact languageIds_empty
  | cons item items ih =>
    cases items with
    | nil => rw [String.intercalate_singleton, List.flatMap_singleton]
    | cons next items =>
      rw [String.intercalate_cons_cons, languageIds_append, ih]
      exact List.flatMap_cons.symm

/-- Ids in their final form are read as they were written. -/
lemma languageIds_intercalate_of_isFinal {ids : List String} (h : ∀ id ∈ ids, IsFinal id) :
    languageIds (",".intercalate ids) = ids := by
  rw [languageIds_intercalate, List.flatMap_congr fun id hid => (h id hid).settled,
    List.flatMap_singleton']

lemma isSql_append (settings : Settings) (d : Document) (a b : String) :
    d.isSql { settings with sqlLanguageIds := a ++ "," ++ b }
      = (d.isSql { settings with sqlLanguageIds := a }
        || d.isSql { settings with sqlLanguageIds := b }) := by
  have hcontains : ∀ id, (languageIds (a ++ "," ++ b)).contains id
      = ((languageIds a).contains id || (languageIds b).contains id) := by
    intro id
    rw [languageIds_append, List.contains_append]
  simp only [Document.isSql, Settings.isSql, hcontains, Bool.and_or_distrib_left]

/-- The ids that a text names, as a set. -/
def languageIdSet (ids : String) : Finset String :=
  (languageIds ids).toFinset

lemma mem_languageIdSet {id : String} : id ∈ languageIdSet s ↔ id ∈ languageIds s :=
  List.mem_toFinset

/-- **The language ids of a setting are a set.**  A setting joined by a comma names what either part
names, and what is SQL under it is SQL under one of them.  Neither the order and the repetition of
items nor blanks around them nor items of blanks make a difference.  An id that is read is not empty
and holds no comma, and the ids of a setting, written down in any order with commas between them,
are read as the same ids. -/
theorem languageIds_behave_as_set :
    (∀ a b, languageIdSet (a ++ "," ++ b) = languageIdSet a ∪ languageIdSet b) ∧
    (∀ items items' : List String, (∀ item, item ∈ items ↔ item ∈ items') →
      languageIdSet (",".intercalate items) = languageIdSet (",".intercalate items')) ∧
    (∀ b, (∀ c ∈ b.toList, isBlank c = true) → languageIdSet b = ∅ ∧
      ∀ b' s, (∀ c ∈ b'.toList, isBlank c = true) →
        languageIdSet (b ++ s ++ b') = languageIdSet s) ∧
    (∀ (settings : Settings) (d : Document) (a b : String),
      d.isSql { settings with sqlLanguageIds := a ++ "," ++ b }
        = (d.isSql { settings with sqlLanguageIds := a }
          || d.isSql { settings with sqlLanguageIds := b })) ∧
    (∀ s, ∀ id ∈ languageIdSet s, id ≠ "" ∧ ',' ∉ id.toList) ∧
    ∀ (s : String) (ids : List String), (∀ id, id ∈ ids ↔ id ∈ languageIdSet s) →
      languageIdSet (",".intercalate ids) = languageIdSet s := by
  refine ⟨?_, ?_, ?_, isSql_append, ?_, ?_⟩
  · intro a b
    ext id
    simp only [mem_languageIdSet, languageIds_append, List.mem_append, Finset.mem_union]
  · intro items items' h
    ext id
    simp only [mem_languageIdSet, languageIds_intercalate, List.mem_flatMap, h]
  · intro b hb
    refine ⟨?_, fun b' s hb' => ?_⟩
    · rw [languageIdSet, languageIds_eq, idsOf_blank hb]
      rfl
    · have hpadded : (b ++ s ++ b').toList = b.toList ++ (s.toList ++ b'.toList) := by
        rw [String.toList_append, String.toList_append, List.append_assoc]
      rw [languageIdSet, languageIds_eq, hpadded, idsOf_pad hb hb']
      rfl
  · intro s id hid
    have hfinal := isFinal_of_mem_idsOf (mem_languageIdSet.mp hid)
    exact ⟨hfinal.ne_empty, hfinal.no_comma⟩
  · intro s ids h
    have hfinal : ∀ id ∈ ids, IsFinal id := fun id hid =>
      isFinal_of_mem_idsOf (mem_languageIdSet.mp ((h id).mp hid))
    rw [languageIdSet, languageIds_intercalate_of_isFinal hfinal]
    ext id
    rw [List.mem_toFinset, h]

/-- Ids with a capital `I` with a dot and with a sigma at the end of a word, written down backwards
and with more blanks. -/
theorem unicode_ids_read_again :
    let s := "\tSQL,ΑΣ ,İ, ,sql"
    let ids := ["i\u0307", "ας", "sql"]
    (∀ id, id ∈ ids ↔ id ∈ languageIdSet s) ∧
      languageIdSet (",".intercalate ids) = languageIdSet s ∧
      languageIdSet (" \u3000" ++ s ++ "\u001C") = languageIdSet s ∧
      languageIdSet (",".intercalate ["sql", "İ", "sql"])
        = languageIdSet (",".intercalate ["İ", "sql"]) := by
  intro s ids
  obtain ⟨-, hitems, hblanks, -, -, hwritten⟩ := languageIds_behave_as_set
  have hread : languageIds s = ["sql", "ας", "i\u0307", "sql"] := by decide +kernel
  have hids : ∀ id, id ∈ ids ↔ id ∈ languageIdSet s := by
    intro id
    rw [mem_languageIdSet, hread]
    simp only [ids, List.mem_cons, List.not_mem_nil, or_false]
    tauto
  refine ⟨hids, hwritten s ids hids, ?_, hitems _ _ fun id => ?_⟩
  · have hbefore : " \u3000".toList.all isBlank = true := by decide +kernel
    have hbehind : "\u001C".toList.all isBlank = true := by decide +kernel
    exact (hblanks " \u3000" (List.all_eq_true.mp hbefore)).2 "\u001C" s
      (List.all_eq_true.mp hbehind)
  · simp only [List.mem_cons, List.not_mem_nil, or_false]
    tauto

end Settings

end QueryLint
