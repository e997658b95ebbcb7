import Mathlib.Data.Prod.Lex
import Mathlib.Data.Set.Card
import QueryLint.Document

/-!
# Lines and positions

A line break is a carriage return and a line feed together, or one of them alone (`LineBreak`).
The line index of a text lists where the breaks end, in order (`mem_breakEnds_iff`,
`pairwise_breakEnds`), so the line of an offset is the number of breaks that lie before it, and its
character is counted from the end of the last of them (`positionAt_counts_breaks`).  Between two
offsets of a text the position always moves on: to a later line, or on the same line to a later
character.
-/

namespace QueryLint

/-- The stretches of a text that are line breaks. -/
inductive LineBreak (t : List Char) : Nat → Nat → Prop where
  /-- A carriage return with the line feed behind it. -/
  | both {i : Nat} : t[i]? = some '\r' → t[i + 1]? = some '\n' → LineBreak t i (i + 2)
  /-- A carriage return without a line feed behind it. -/
  | carriageReturn {i : Nat} : t[i]? = some '\r' → t[i + 1]? ≠ some '\n' → LineBreak t i (i + 1)
  /-- A line feed without a carriage return before it. -/
  | lineFeed {i : Nat} : t[i]? = some '\n' → (∀ k, i = k + 1 → t[k]? ≠ some '\r') →
      LineBreak t i (i + 1)

/-- The end of the last line break that lies entirely before an offset; `0` if there is none. -/
def LastBreakEnd (t : List Char) (c e : Nat) : Prop :=
  (∀ i j, LineBreak t i j → j ≤ c → j ≤ e) ∧ (e = 0 ∨ e ≤ c ∧ ∃ i, LineBreak t i e)

variable {t cs : List Char} {i j k m c e : Nat}

/-! ### Where line breaks end -/

/-- Whether a line break ends with the character at the offset. -/
def EndsLine (t : List Char) (m : Nat) : Prop :=
  t[m]? = some '\n' ∨ t[m]? = some '\r' ∧ t[m + 1]? ≠ some '\n'

lemma exists_lineBreak_iff : (∃ i, LineBreak t i e) ↔ ∃ m, e = m + 1 ∧ EndsLine t m := by
  constructor
  · rintro ⟨i, h⟩
    cases h with
    | both hcr hlf => exact ⟨i + 1, rfl, .inl hlf⟩
    | carriageReturn hcr hlf => exact ⟨i, rfl, .inr ⟨hcr, hlf⟩⟩
    | lineFeed hlf hcr => exact ⟨i, rfl, .inl hlf⟩
  · rintro ⟨m, rfl, hlf | ⟨hcr, hlf⟩⟩
    · by_cases hcr : ∃ k, m = k + 1 ∧ t[k]? = some '\r'
      · obtain ⟨k, rfl, hcr⟩ := hcr
        exact ⟨k, .both hcr hlf⟩
      · refine ⟨m, .lineFeed hlf fun k hk hr => ?_⟩
        exact hcr ⟨k, hk, hr⟩
    · exact ⟨m, .carriageReturn hcr hlf⟩

lemma LineBreak.lt (h : LineBreak t i e) : i < e := by
  cases h <;> omega

/-- A line break is known from its end. -/
theorem LineBreak.start_unique (h : LineBreak t i e) (h' : LineBreak t j e) : i = j := by
  have key : ∀ {i j}, t[i + 1]? = some '\n' → t[i]? = some '\r' → LineBreak t j (i + 2) →
      i = j := by
    intro i j hlf hcr h
    generalize he : i + 2 = e at h
    cases h with
    | both => omega
    | carriageReturn hcr' =>
      obtain rfl : j = i + 1 := by omega
      rw [hlf] at hcr'
      exact absurd hcr' (by decide)
    | lineFeed _ hcr' =>
      obtain rfl : j = i + 1 := by omega
      exact absurd hcr (hcr' i rfl)
  cases h with
  | both hcr hlf => exact key hlf hcr h'
  | carriageReturn hcr =>
    generalize he : i + 1 = e at h'
    cases h' with
    | both hcr' hlf' =>
      obtain rfl : i = j + 1 := by omega
      rw [hcr] at hlf'
      exact absurd hlf' (by decide)
    | carriageReturn => omega
    | lineFeed => omega
  | lineFeed hlf hnot =>
    generalize he : i + 1 = e at h'
    cases h' with
    | both hcr' hlf' => exact absurd hcr' (hnot j (by omega))
    | carriageReturn => omega
    | lineFeed => omega

/-! ### The ends of the line breaks -/

lemma endsLine_cons_succ {a : Char} : EndsLine (a :: cs) (m + 1) ↔ EndsLine cs m := by
  simp [EndsLine]

/-- The first character of a text, and what comes behind it. -/
lemma exists_endsLine_cons {a : Char} :
    (∃ m, e = i + m + 1 ∧ EndsLine (a :: cs) m)
      ↔ e = i + 1 ∧ EndsLine (a :: cs) 0 ∨ ∃ m, e = i + 1 + m + 1 ∧ EndsLine cs m := by
  constructor
  · rintro ⟨m, rfl, hm⟩
    cases m with
    | zero => exact .inl ⟨rfl, hm⟩
    | succ m => exact .inr ⟨m, by omega, endsLine_cons_succ.mp hm⟩
  · rintro (⟨rfl, h⟩ | ⟨m, rfl, hm⟩)
    · exact ⟨0, rfl, h⟩
    · exact ⟨m + 1, by omega, endsLine_cons_succ.mpr hm⟩

theorem mem_breakEnds : e ∈ breakEnds i cs ↔ ∃ m, e = i + m + 1 ∧ EndsLine cs m := by
  fun_induction breakEnds i cs with
  | case1 i => simp [EndsLine]
  | case2 i rest ih =>
    -- the carriage return is not the end of the break, the line feed is
    have hcr : ¬ EndsLine ('\r' :: '\n' :: rest) 0 := by simp [EndsLine]
    have hlf : EndsLine ('\n' :: rest) 0 := by simp [EndsLine]
    rw [exists_endsLine_cons, exists_endsLine_cons, List.mem_cons, ih]
    simp [hcr, hlf]
  | case3 i c rest hnot hc ih =>
    have hends : EndsLine (c :: rest) 0 := by
      rcases Bool.or_eq_true _ _ ▸ hc with hcr | hlf
      · obtain rfl := beq_iff_eq.mp hcr
        refine .inr ⟨rfl, fun hlf => ?_⟩
        cases rest with
        | nil => cases hlf
        | cons d rest =>
          obtain rfl : d = '\n' := by simpa using hlf
          exact hnot rest rfl rfl
      · obtain rfl := beq_iff_eq.mp hlf
        exact .inl rfl
    rw [exists_endsLine_cons, List.mem_cons, ih]
    simp [hends]
  | case4 i c rest hnot hc ih =>
    have hends : ¬ EndsLine (c :: rest) 0 := by
      intro h
      simp only [EndsLine, List.getElem?_cons_zero, Option.some.injEq] at h
      rcases h with rfl | ⟨rfl, -⟩ <;> exact hc rfl
    rw [exists_endsLine_cons, ih]
    simp [hends]

/-- The line index knows exactly the ends of the line breaks. -/
theorem mem_breakEnds_iff : e ∈ breakEnds 0 t ↔ ∃ i, LineBreak t i e := by
  rw [mem_breakEnds, exists_lineBreak_iff]
  simp only [Nat.zero_add]

theorem pairwise_breakEnds (i : Nat) (cs : List Char) : (breakEnds i cs).Pairwise (· < ·) := by
  have hlater : ∀ {i cs e}, e ∈ breakEnds i cs → i < e := by
    intro i cs e he
    obtain ⟨m, rfl, -⟩ := mem_breakEnds.mp he
    omega
  fun_induction breakEnds i cs with
  | case1 => exact List.Pairwise.nil
  | case2 i rest ih => exact List.pairwise_cons.mpr ⟨fun _ => hlater, ih⟩
  | case3 i c rest _ _ ih => exact List.pairwise_cons.mpr ⟨fun _ => hlater, ih⟩
  | case4 i c rest _ _ ih => exact ih

/-- The number of line breaks that lie entirely before an offset. -/
theorem encard_lineBreaks (t : List Char) (c : Nat) :
    {b : Nat × Nat | LineBreak t b.1 b.2 ∧ b.2 ≤ c}.encard
      = ((breakEnds 0 t).filter (· ≤ c)).length := by
  have hnodup : ((breakEnds 0 t).filter (· ≤ c)).Nodup :=
    ((pairwise_breakEnds 0 t).imp Nat.ne_of_lt).filter _
  have hinj : Set.InjOn Prod.snd {b : Nat × Nat | LineBreak t b.1 b.2 ∧ b.2 ≤ c} := by
    rintro ⟨i, e⟩ ⟨hi, -⟩ ⟨j, e'⟩ ⟨hj, -⟩ rfl
    exact Prod.ext (hi.start_unique hj) rfl
  have himage : Prod.snd '' {b : Nat × Nat | LineBreak t b.1 b.2 ∧ b.2 ≤ c}
      = ((breakEnds 0 t).filter (· ≤ c)).toFinset := by
    ext e
    simp only [Set.mem_image, Set.mem_ofPred_eq, Prod.exists, exists_eq_right, List.coe_toFinset,
      List.mem_filter, decide_eq_true_eq, mem_breakEnds_iff]
    constructor
    · rintro ⟨i, hi, hc⟩
      exact ⟨⟨i, hi⟩, hc⟩
    · rintro ⟨⟨i, hi⟩, hc⟩
      exact ⟨i, hi, hc⟩
  rw [← hinj.encard_image, himage, Set.encard_coe_eq_coe_finsetCard,
    List.toFinset_card_of_nodup hnodup]

/-! ### Positions -/

/-- In an increasing list the entries up to a bound come first. -/
lemma filter_le_eq_take {l : List Nat} (h : l.Pairwise (· < ·)) (c : Nat) :
    l.filter (· ≤ c) = l.take (l.filter (· ≤ c)).length := by
  induction l with
  | nil => rfl
  | cons a l ih =>
    obtain ⟨hlt, hl⟩ := List.pairwise_cons.mp h
    by_cases ha : a ≤ c
    · rw [List.filter_cons_of_pos (by simpa using ha), List.length_cons, List.take_succ_cons,
        ← ih hl]
    · have hnone : (a :: l).filter (· ≤ c) = [] := by
        rw [List.filter_eq_nil_iff]
        intro b hb
        have hab : a ≤ b := by
          rcases List.mem_cons.mp hb with rfl | hb
          · exact le_rfl
          · exact le_of_lt (hlt b hb)
        simp only [decide_eq_true_eq]
        omega
      rw [hnone]
      rfl

namespace LineIndex

variable {text : String} {offset : Int}

lemma clamp_ofText (text : String) (offset : Int) :
    (ofText text).clamp offset = (max 0 (min offset text.toList.length)).toNat := by
  show min offset.toNat text.toList.length = _
  omega

lemma pairwise_starts (text : String) : (ofText text).starts.Pairwise (· < ·) := by
  refine List.pairwise_cons.mpr ⟨fun e he => ?_, pairwise_breakEnds 0 text.toList⟩
  obtain ⟨i, hi⟩ := mem_breakEnds_iff.mp he
  have := hi.lt
  omega

/-- The line starts up to an offset: the start of the text, and the end of each break before the
offset. -/
lemma filter_starts (text : String) (c : Nat) :
    (ofText text).starts.filter (· ≤ c) = 0 :: (breakEnds 0 text.toList).filter (· ≤ c) :=
  List.filter_cons_of_pos (by simp)

theorem line_position (text : String) (offset : Int) :
    ((ofText text).position offset).line
      = ((breakEnds 0 text.toList).filter (· ≤ (ofText text).clamp offset)).length := by
  show ((ofText text).starts.filter _).length - 1 = _
  rw [filter_starts, List.length_cons, Nat.add_sub_cancel]

/-- The line of a position is a line of the index, and its start is the last one up to the offset;
the character is counted from there. -/
theorem exists_start (text : String) (offset : Int) :
    ∃ start, (ofText text).starts[((ofText text).position offset).line]? = some start ∧
      LastBreakEnd text.toList ((ofText text).clamp offset) start ∧
      start + ((ofText text).position offset).character = (ofText text).clamp offset := by
  generalize hc : (ofText text).clamp offset = c
  obtain ⟨start, hstart⟩ : ∃ start,
      ((ofText text).starts.filter (· ≤ c)).getLast? = some start :=
    ⟨_, List.getLast?_eq_some_getLast (by simp [filter_starts])⟩
  have hmem := List.mem_of_getLast? hstart
  have hle : start ≤ c := by simpa using (List.mem_filter.mp hmem).2
  have hcharacter : ((ofText text).position offset).character = c - start := by
    show (ofText text).clamp offset
      - ((ofText text).starts.filter (· ≤ (ofText text).clamp offset)).getLastD 0 = _
    rw [hc, List.getLastD_eq_getLast?, hstart, Option.getD_some]
  refine ⟨start, ?_, ⟨fun i j hij hj => ?_, ?_⟩, by omega⟩
  · rw [line_position, hc]
    have htake := filter_le_eq_take (pairwise_starts text) c
    have hlength : ((ofText text).starts.filter (· ≤ c)).length
        = ((breakEnds 0 text.toList).filter (· ≤ c)).length + 1 := by
      rw [filter_starts, List.length_cons]
    rw [List.getLast?_eq_getElem?, hlength, Nat.add_sub_cancel, htake, hlength,
      List.getElem?_take_of_lt (Nat.lt_succ_self _)] at hstart
    exact hstart
  · -- the start is the last entry of an increasing list that holds the end of this break
    have hentry : j ∈ (ofText text).starts.filter (· ≤ c) := by
      rw [filter_starts]
      exact List.mem_cons_of_mem _ (List.mem_filter.mpr ⟨mem_breakEnds_iff.mpr ⟨i, hij⟩, by simpa⟩)
    have hsorted : ((ofText text).starts.filter (· ≤ c)).Pairwise (· ≤ ·) :=
      ((pairwise_starts text).imp le_of_lt).filter _
    have hlast := hsorted.rel_getLast_of_rel_getLast_getLast hentry le_rfl
    rwa [List.getLast_of_mem_getLast? hstart] at hlast
  · rw [filter_starts] at hmem
    rcases List.mem_cons.mp hmem with rfl | hmem
    · exact .inl rfl
    · exact .inr ⟨hle, mem_breakEnds_iff.mp (List.mem_filter.mp hmem).1⟩

end LineIndex

/-- Positions are ordered by line, then by character. -/
def Position.lex (p : Position) : ℕ ×ₗ ℕ :=
  toLex (p.line, p.character)

/-- A later offset has a later position. -/
theorem LineIndex.lex_position_lt (text : String) {a b : Nat} (hab : a < b)
    (hb : b ≤ text.toList.length) :
    ((ofText text).position a).lex < ((ofText text).position b).lex := by
  have hclamp : ∀ {n : Nat}, n ≤ text.toList.length → (ofText text).clamp n = n := by
    intro n hn
    rw [clamp_ofText]
    omega
  have hle : ((ofText text).position a).line ≤ ((ofText text).position b).line := by
    rw [line_position, line_position, hclamp hb, hclamp (by omega)]
    apply List.Sublist.length_le
    apply List.monotone_filter_right
    intro e he
    simp only [decide_eq_true_eq] at he ⊢
    omega
  rw [Position.lex, Position.lex, Prod.Lex.toLex_lt_toLex]
  rcases Nat.lt_or_eq_of_le hle with hlt | heq
  · exact .inl hlt
  · -- on one line both characters are counted from the same start
    obtain ⟨start, hstart, -, hcharacter⟩ := exists_start text a
    obtain ⟨start', hstart', -, hcharacter'⟩ := exists_start text b
    rw [heq, hstart', Option.some.injEq] at hstart
    rw [hclamp (by omega)] at hcharacter
    rw [hclamp hb] at hcharacter'
    exact .inr ⟨heq, by omega⟩

/-! ### Documents -/

namespace Document

lemma text_foldl_setText (d : Document) (texts : List (Option String)) :
    (texts.foldl setText d).text = (texts.getLast?.map (·.getD "")).getD d.text := by
  induction texts generalizing d with
  | nil => rfl
  | cons text texts ih =>
    rw [List.foldl_cons, ih, List.getLast?_cons]
    cases texts.getLast? <;> rfl

/-- **Positions are counted in line breaks.**  Take a document that was created with a text and
edited any number of times, and any offset, which is first moved into the current text.  The line
of its position is the number of line breaks that lie entirely before it, a line of the index; the
character is its distance from the end of the last of these breaks, or from the start of the text.
On the offsets of the text positions grow strictly, so no two of them share one. -/
theorem positionAt_counts_breaks (uri : String) (languageId : Json.Text) (version : Int)
    (first : Option String) (edits : List (Option String)) (offset : Int) :
    let d := edits.foldl setText (create uri languageId version first)
    let t := d.text.toList
    let c := (max 0 (min offset t.length)).toNat
    d.text = (edits.getLast?.getD first).getD "" ∧
      {b : Nat × Nat | LineBreak t b.1 b.2 ∧ b.2 ≤ c}.encard = (d.positionAt offset).line ∧
      (∃ start, (LineIndex.ofText d.text).starts[(d.positionAt offset).line]? = some start ∧
        LastBreakEnd t c start ∧ start + (d.positionAt offset).character = c) ∧
      StrictMonoOn (fun n : Nat => (d.positionAt n).lex) (Set.Iic t.length) ∧
      Set.InjOn (fun n : Nat => d.positionAt n) (Set.Iic t.length) := by
  intro d t c
  have hclamp : (LineIndex.ofText d.text).clamp offset = c := LineIndex.clamp_ofText d.text offset
  simp only [positionAt_eq d]
  have hmono : StrictMonoOn (fun n : Nat => ((LineIndex.ofText d.text).position n).lex)
      (Set.Iic t.length) := fun a _ b hb hab => LineIndex.lex_position_lt d.text hab hb
  refine ⟨?_, ?_, ?_, hmono, fun a ha b hb hab => ?_⟩
  · show (edits.foldl setText _).text = _
    rw [text_foldl_setText]
    cases edits.getLast? <;> rfl
  · rw [encard_lineBreaks, LineIndex.line_position, hclamp]
  · have hstart := LineIndex.exists_start d.text offset
    rwa [hclamp] at hstart
  · exact hmono.injOn ha hb (congrArg Position.lex hab)

/-- Behind a carriage return and between the two characters of a break. -/
example : (create "u" "sql" 1 (some "a\r\r\n\nb")).positionAt 3 = ⟨1, 1⟩ := by
  decide +kernel

end Document

end QueryLint
