import QueryLint.Proofs.Catalog.Summary
import QueryLint.Proofs.Failure.Messages

/-!
# Reading a notification text

`formatSummary` joins a header and the messages by a line break with a bullet.  Whoever splits the
text at the bullets gets them back (`splitText_formatSummary`), as long as no message holds a bullet
of its own: the bullet begins with a line break and has no other one, so it cannot begin at the end
of a message and be completed by the bullet behind it (`not_prefix_of_seam`).  No message of the
catalog holds a line break, and the text for no messages is not the beginning of any other, so the
issues of a notification can be read off its text.
-/

namespace QueryLint

/-! ### Splitting a text -/

/-- The pieces of a text between the occurrences of a part, looked for from left to right and none
overlapping the one before; the first `skip` characters belong to an occurrence. -/
def splitFrom (part : List Char) : Nat → List Char → List (List Char)
  | _, [] => [[]]
  | skip + 1, _ :: cs => splitFrom part skip cs
  | 0, c :: cs =>
    if part.isPrefixOf (c :: cs) then [] :: splitFrom part (part.length - 1) cs
    else (splitFrom part 0 cs).modifyHead (c :: ·)

/-- The pieces of a text between the occurrences of a part. -/
def splitText (text part : String) : List String :=
  (splitFrom part.toList 0 text.toList).map String.ofList

section Pieces

variable {part p cs rest tail : List Char} {s c : Char}

lemma splitFrom_length_append (part p rest : List Char) :
    splitFrom part p.length (p ++ rest) = splitFrom part 0 rest := by
  induction p with
  | nil => rfl
  | cons c p ih => exact ih

lemma splitFrom_of_begins (h : part <+: c :: cs) :
    splitFrom part 0 (c :: cs) = [] :: splitFrom part (part.length - 1) cs := by
  rw [splitFrom, if_pos (List.isPrefixOf_iff_prefix.mpr h)]

lemma splitFrom_of_not_begins (h : ¬ part <+: c :: cs) :
    splitFrom part 0 (c :: cs) = (splitFrom part 0 cs).modifyHead (c :: ·) := by
  rw [splitFrom, if_neg (mt List.isPrefixOf_iff_prefix.mp h)]

lemma splitFrom_of_not_infix (h : ¬ part <:+: p) : splitFrom part 0 p = [p] := by
  induction p with
  | nil => rfl
  | cons c p ih =>
    have hrest : ¬ part <:+: p := fun hp => h (hp.trans (List.suffix_cons c p).isInfix)
    rw [splitFrom_of_not_begins fun hp => h hp.isInfix, ih hrest]
    rfl

/-- A part whose first character does not come again cannot begin before a seam and go on behind it
where the same part stands. -/
lemma not_prefix_of_seam (hs : s ∉ tail) (h : ¬ s :: tail <:+: c :: p) :
    ¬ s :: tail <+: c :: (p ++ (s :: tail ++ rest)) := by
  intro hpart
  rw [← List.cons_append] at hpart
  have hseam : c :: p <+: c :: p ++ (s :: tail ++ rest) := List.prefix_append _ _
  rcases List.prefix_or_prefix_of_prefix hpart hseam with hbefore | ⟨behind, hcut⟩
  · exact h hbefore.isInfix
  · -- the seam cuts the part in two, and its second half begins as the part does
    rw [← hcut, List.prefix_append_right_inj] at hpart
    obtain ⟨-, htail⟩ := List.cons.inj hcut
    cases behind with
    | nil =>
      rw [List.append_nil] at hcut
      exact h (hcut ▸ List.infix_rfl)
    | cons d behind =>
      have hd : d = c := (List.cons_prefix_cons.mp hpart).1
      have hc : c = s := (List.cons.inj hcut).1
      apply hs
      rw [← htail, ← hc, ← hd]
      exact List.mem_append_right p List.mem_cons_self

/-- The first piece of a text. -/
lemma splitFrom_append (hs : s ∉ tail) (h : ¬ s :: tail <:+: p) :
    splitFrom (s :: tail) 0 (p ++ (s :: tail ++ rest)) = p :: splitFrom (s :: tail) 0 rest := by
  induction p with
  | nil =>
    have hpart : s :: tail <+: s :: (tail ++ rest) := List.prefix_append (s :: tail) rest
    rw [List.nil_append, List.cons_append, splitFrom_of_begins hpart, List.length_cons,
      Nat.add_sub_cancel, splitFrom_length_append]
  | cons c p ih =>
    have hrest : ¬ s :: tail <:+: p := fun hp => h (hp.trans (List.suffix_cons c p).isInfix)
    rw [List.cons_append, splitFrom_of_not_begins (not_prefix_of_seam hs h), ih hrest]
    rfl

/-- What is joined by a part comes apart at it. -/
theorem splitFrom_intercalate (hs : s ∉ tail) {ps : List (List Char)} (hne : ps ≠ [])
    (h : ∀ p ∈ ps, ¬ s :: tail <:+: p) :
    splitFrom (s :: tail) 0 ((s :: tail).intercalate ps) = ps := by
  induction ps with
  | nil => exact absurd rfl hne
  | cons p ps ih =>
    rw [List.forall_mem_cons] at h
    cases ps with
    | nil => rw [List.intercalate_singleton, splitFrom_of_not_infix h.1]
    | cons q ps =>
      rw [List.intercalate_cons_cons, List.append_assoc, splitFrom_append hs h.1,
        ih (List.cons_ne_nil q ps) h.2]

end Pieces

/-! ### Notification texts -/

lemma toList_issueBullet : issueBullet.toList = ['\n', '-', ' '] :=
  String.toList_ofList

lemma hasPart_eq_false_iff {text part : String} :
    hasPart text part = false ↔ ¬ part.toList <:+: text.toList := by
  rw [← hasPart_iff, Bool.not_eq_true]

/-- A text of one line. -/
def IsLine (text : String) : Prop :=
  '\n' ∉ text.toList

lemma IsLine.literal {cs : List Char} (h : '\n' ∉ cs) : IsLine (String.ofList cs) := by
  rwa [IsLine, String.toList_ofList]

lemma IsLine.append {a b : String} (ha : IsLine a) (hb : IsLine b) : IsLine (a ++ b) := by
  rw [IsLine, String.toList_append, List.mem_append]
  exact fun h => h.elim ha hb

/-- A text of one line holds no bullet. -/
lemma IsLine.hasPart_issueBullet {text : String} (h : IsLine text) :
    hasPart text issueBullet = false := by
  rw [hasPart_eq_false_iff, toList_issueBullet]
  intro hpart
  exact h (hpart.subset List.mem_cons_self)

lemma isLine_message : ∀ r ∈ catalog, IsLine r.message := by
  simp only [catalog, List.forall_mem_cons]
  -- the messages are literals, or two literals each where a line of the catalog is too short
  refine ⟨.append (.literal ?_) (.literal ?_), .append (.literal ?_) (.literal ?_), .literal ?_,
    .literal ?_, .literal ?_, .append (.literal ?_) (.literal ?_),
    .append (.literal ?_) (.literal ?_), .append (.literal ?_) (.literal ?_), .literal ?_,
    .literal ?_, .append (.literal ?_) (.literal ?_), .literal ?_, .literal ?_,
    .append (.literal ?_) (.literal ?_), .literal ?_, List.forall_mem_nil _⟩
  all_goals decide

/-- No message of summary mode holds a bullet. -/
lemma hasPart_issueBullet_of_mem_summarize {text m : String} (h : m ∈ summarize text) :
    hasPart m issueBullet = false := by
  obtain ⟨r, hr, rfl⟩ := List.mem_map.mp h
  exact (isLine_message r (List.mem_of_mem_filter hr)).hasPart_issueBullet

theorem splitText_intercalate_issueBullet {parts : List String} (hne : parts ≠ [])
    (h : ∀ p ∈ parts, hasPart p issueBullet = false) :
    splitText (issueBullet.intercalate parts) issueBullet = parts := by
  have hparts : ∀ p ∈ parts.map String.toList, ¬ ['\n', '-', ' '] <:+: p := by
    intro p hp
    obtain ⟨part, hpart, rfl⟩ := List.mem_map.mp hp
    rw [← toList_issueBullet]
    exact hasPart_eq_false_iff.mp (h part hpart)
  rw [splitText, String.toList_intercalate, toList_issueBullet,
    splitFrom_intercalate (by decide) (by simpa using hne) hparts, List.map_map]
  exact (List.map_congr_left fun p _ => String.ofList_toList).trans (List.map_id parts)

lemma formatSummary_of_ne_nil {ms : List String} (hne : ms ≠ []) :
    formatSummary ms = issueBullet.intercalate (summaryHeader :: ms) := by
  rw [formatSummary, if_neg (by simpa using hne)]

/-- A text that lists messages begins with the header. -/
lemma formatSummary_ne_noIssuesMessage {ms : List String} (hne : ms ≠ []) :
    formatSummary ms ≠ noIssuesMessage := by
  intro h
  obtain ⟨m, ms, rfl⟩ := List.exists_cons_of_ne_nil hne
  have hhead : ∀ cs, (summaryHeader.toList ++ cs).head? = some 'D' := fun cs => rfl
  have hempty : noIssuesMessage.toList.head? = some 'N' := rfl
  rw [← h, formatSummary_of_ne_nil hne, String.intercalate_cons_cons, String.append_assoc,
    String.toList_append, hhead] at hempty
  cases hempty

/-- A text that lists messages without bullets of their own comes apart into the header and them. -/
theorem splitText_formatSummary {ms : List String} (hne : ms ≠ [])
    (h : ∀ m ∈ ms, hasPart m issueBullet = false) :
    splitText (formatSummary ms) issueBullet = summaryHeader :: ms := by
  have hheader : hasPart summaryHeader issueBullet = false :=
    IsLine.hasPart_issueBullet (.literal (by decide))
  rw [formatSummary_of_ne_nil hne]
  exact splitText_intercalate_issueBullet (List.cons_ne_nil _ _)
    (List.forall_mem_cons.mpr ⟨hheader, h⟩)

/-- The issues that a notification text lists. -/
def listedIssues (text : String) : List String :=
  if text = noIssuesMessage then [] else (splitText text issueBullet).tail

theorem listedIssues_formatSummary {ms : List String}
    (h : ∀ m ∈ ms, hasPart m issueBullet = false) : listedIssues (formatSummary ms) = ms := by
  by_cases hms : ms = []
  · subst hms
    exact if_pos rfl
  · rw [listedIssues, if_neg (formatSummary_ne_noIssuesMessage hms), splitText_formatSummary hms h,
      List.tail_cons]

/-- **A notification text determines its issues.**  The text for no messages is fixed and stands for
nothing else; every other text comes apart at its bullets into the header and the messages, if none
of them holds a bullet, so different lists of such messages have different texts.  The messages of
summary mode are of that kind: a notification is a warning exactly if there are issues, and they are
what its text lists. -/
theorem notification_determines_issues :
    formatSummary [] = noIssuesMessage ∧
    (∀ ms, ms ≠ [] → formatSummary ms ≠ noIssuesMessage) ∧
    (∀ ms, ms ≠ [] → (∀ m ∈ ms, hasPart m issueBullet = false) →
      splitText (formatSummary ms) issueBullet = summaryHeader :: ms) ∧
    (∀ ms ms', (∀ m ∈ ms, hasPart m issueBullet = false) →
      (∀ m ∈ ms', hasPart m issueBullet = false) → formatSummary ms = formatSummary ms' →
        ms = ms') ∧
    ∀ (text : String) (s : Session) (seconds : Float),
      let n := (s.summarizeText seconds text).value
      (∀ m ∈ summarize text, hasPart m issueBullet = false) ∧
      n.issues = summarize text ∧
      (n.level = .warning ↔ n.issues ≠ []) ∧
      listedIssues n.message = n.issues := by
  refine ⟨rfl, fun ms => formatSummary_ne_noIssuesMessage, fun ms => splitText_formatSummary, ?_,
    ?_⟩
  · intro ms ms' h h' heq
    rw [← listedIssues_formatSummary h, heq, listedIssues_formatSummary h']
  · intro text s seconds n
    have hplain : ∀ m ∈ summarize text, hasPart m issueBullet = false := fun m =>
      hasPart_issueBullet_of_mem_summarize
    have hmessage : n.message = formatSummary (summarize text) := rfl
    refine ⟨hplain, rfl, (level_notify (summarize text)).1, ?_⟩
    rw [hmessage, listedIssues_formatSummary hplain]
    rfl

/-- Messages that end in the beginning of a bullet, begin with its end or are empty. -/
theorem awkward_messages_listed :
    let ms := ["ends in a line break\n", "- begins with a dash\n-", "", " "]
    (∀ m ∈ ms, hasPart m issueBullet = false) ∧
      splitText (formatSummary ms) issueBullet = summaryHeader :: ms := by
  intro ms
  have hms : ∀ m ∈ ms, hasPart m issueBullet = false := by decide +kernel
  exact ⟨hms, notification_determines_issues.2.2.1 ms (List.cons_ne_nil _ _) hms⟩

end QueryLint
