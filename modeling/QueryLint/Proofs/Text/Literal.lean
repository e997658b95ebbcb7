import Mathlib.Tactic.Common
import Mathlib.Tactic.Ring
import QueryLint.Text.Quoted

/-!
# Literals can be read back

A literal tells where it ends and what it stands for, whatever is written behind it
(`encode_append_inj`).  Inside it every code point is written so that the next one can be read off:
a backslash says by the character behind it how much belongs to the escape, and hexadecimal digits
are as many as the mark before them says (`Written.readPoint?`).  The quote that ends the literal
never begins the writing of a code point inside it.

What is written is `IsVisible`: no control character, no line separator and no space that does not
break gets into a literal.
-/

namespace QueryLint

namespace CodePoint

/-- The number of a code point. -/
def number : CodePoint → Nat
  | char c => c.toNat
  | half n _ => n

@[simp]
lemma ofNat_number (p : CodePoint) : ofNat p.number = p := by
  cases p with
  | char c => exact ofNat_toNat c
  | half n hhalf => rw [number, ofNat, dif_pos hhalf]

lemma number_lt (p : CodePoint) : p.number < 0x110000 := by
  cases p with
  | char c =>
    have hvalid : c.toNat < 0xD800 ∨ 0xDFFF < c.toNat ∧ c.toNat < 0x110000 := c.valid
    rw [number]
    omega
  | half n hhalf =>
    simp only [isHalf, Bool.and_eq_true, decide_eq_true_eq] at hhalf
    rw [number]
    omega

end CodePoint

/-! ### Visible characters -/

/-- A character that neither breaks a line nor hides on it as a control character or as a space that
does not break. -/
def IsVisible (c : Char) : Prop :=
  0x20 ≤ c.toNat ∧ ¬(0x7F ≤ c.toNat ∧ c.toNat ≤ 0xA0) ∧ c ≠ '\u2028'

instance : DecidablePred IsVisible := fun _ => inferInstanceAs (Decidable (_ ∧ _ ∧ _))

lemma isVisible_of_isUnprintable {c : Char} (h : isUnprintable c = false) : IsVisible c := by
  have houtside : ∀ range ∈ unprintableRanges, ¬(range.1 ≤ c.toNat ∧ c.toNat ≤ range.2) := by
    simpa [isUnprintable, inRanges] using h
  have hcontrols := houtside (0x0000, 0x001F) (by decide +kernel)
  have hdelete := houtside (0x007F, 0x00A0) (by decide +kernel)
  have hseparators := houtside (0x2028, 0x202F) (by decide +kernel)
  refine ⟨by omega, hdelete, ?_⟩
  rintro rfl
  exact hseparators (by decide)

namespace Quoted

variable {quote c : Char} {n w : Nat} {rest : List Char}

/-! ### Hexadecimal digits -/

/-- The value of a hexadecimal digit. -/
def digitValue (c : Char) : Nat :=
  if c.isDigit then c.toNat - '0'.toNat else c.toNat - 'a'.toNat + 10

/-- The number that hexadecimal digits stand for, behind the digits of another one. -/
def numberFrom (start : Nat) (digits : List Char) : Nat :=
  digits.foldl (fun n c => n * 16 + digitValue c) start

lemma digitValue_digitChar : ∀ n < 16, digitValue (Nat.digitChar n) = n := by
  decide

lemma hexDigits_succ (w n : Nat) :
    hexDigits (w + 1) n = Nat.digitChar (n / 16 ^ w % 16) :: hexDigits w n := by
  simp [hexDigits, List.range_succ]

lemma length_hexDigits (w n : Nat) : (hexDigits w n).length = w := by
  simp [hexDigits]

/-- The digits give back what they were made from, as far as they go. -/
lemma numberFrom_hexDigits (start w n : Nat) :
    numberFrom start (hexDigits w n) = start * 16 ^ w + n % 16 ^ w := by
  induction w generalizing start with
  | zero => simp [hexDigits, numberFrom, Nat.mod_one]
  | succ w ih =>
    have hdigit : digitValue (Nat.digitChar (n / 16 ^ w % 16)) = n / 16 ^ w % 16 :=
      digitValue_digitChar _ (Nat.mod_lt _ (by decide))
    have hcons : numberFrom start (hexDigits (w + 1) n)
        = numberFrom (start * 16 + n / 16 ^ w % 16) (hexDigits w n) := by
      rw [hexDigits_succ, numberFrom, List.foldl_cons, hdigit]
      rfl
    rw [hcons, ih, Nat.pow_succ, Nat.mod_mul]
    ring

/-! ### Reading one code point -/

/-- How many hexadecimal digits a mark behind a backslash announces. -/
def hexWidth? (mark : Char) : Option Nat :=
  if mark = 'x' then some 2 else if mark = 'u' then some 4 else if mark = 'U' then some 8 else none

/-- What a letter behind a backslash stands for; other characters stand for themselves. -/
def ofLetter (c : Char) : Char :=
  if c = 'n' then '\n' else if c = 'r' then '\r' else if c = 't' then '\t' else c

/-- The first code point inside a literal, and what is written behind it. -/
def readPoint? : List Char → Option (CodePoint × List Char)
  | [] => none
  | c :: rest =>
    if c = '\\' then
      match rest with
      | [] => none
      | mark :: rest =>
        match hexWidth? mark with
        | some w => some (.ofNat (numberFrom 0 (rest.take w)), rest.drop w)
        | none => some (.char (ofLetter mark), rest)
    else some (.char c, rest)

lemma readPoint?_of_ne (h : c ≠ '\\') (rest : List Char) :
    readPoint? (c :: rest) = some (.char c, rest) := by
  simp only [readPoint?, if_neg h]

lemma readPoint?_letter (h : hexWidth? c = none) (rest : List Char) :
    readPoint? ('\\' :: c :: rest) = some (.char (ofLetter c), rest) := by
  simp only [readPoint?, if_pos, h]

lemma readPoint?_digits (h : hexWidth? c = some w) (hn : n < 16 ^ w) (rest : List Char) :
    readPoint? ('\\' :: c :: (hexDigits w n ++ rest)) = some (.ofNat n, rest) := by
  have hlength := length_hexDigits w n
  simp only [readPoint?, if_pos, h]
  rw [List.take_left' hlength, List.drop_left' hlength, numberFrom_hexDigits, Nat.zero_mul,
    Nat.zero_add, Nat.mod_eq_of_lt hn]

lemma readPoint?_escapeCode (hn : n < 0x110000) (rest : List Char) :
    readPoint? (escapeCode n ++ rest) = some (.ofNat n, rest) := by
  unfold escapeCode
  split_ifs with hshort hlong
  · exact readPoint?_digits (c := 'x') rfl hshort rest
  · exact readPoint?_digits (c := 'u') rfl hlong rest
  · have hwide : n < 16 ^ 8 := by omega
    exact readPoint?_digits (c := 'U') rfl hwide rest

/-! ### Writing one code point -/

/-- The ways in which a code point is written: by a mark behind a backslash, by its number, or as the
character that it is. -/
inductive Written (quote : Char) : CodePoint → List Char → Prop
  | marked {mark c : Char} : hexWidth? mark = none → IsVisible mark → ofLetter mark = c →
      Written quote (.char c) ['\\', mark]
  | code (p : CodePoint) : Written quote p (escapeCode p.number)
  | plain {c : Char} : c ≠ quote → c ≠ '\\' → isUnprintable c = false → Written quote (.char c) [c]

lemma written_escapePoint (hquote : quote = '\'' ∨ quote = '"') (p : CodePoint) :
    Written quote p (escapePoint quote p) := by
  cases p with
  | half n h => exact .code (.half n h)
  | char c =>
    rw [escapePoint, escapeChar]
    split_ifs with hself hfeed hreturn htab hhidden
    · rw [Bool.or_eq_true, beq_iff_eq, beq_iff_eq] at hself
      rcases hself with rfl | rfl
      · rcases hquote with rfl | rfl <;> exact .marked rfl (by decide) rfl
      · exact .marked rfl (by decide) rfl
    · exact .marked rfl (by decide) (beq_iff_eq.mp hfeed).symm
    · exact .marked rfl (by decide) (beq_iff_eq.mp hreturn).symm
    · exact .marked rfl (by decide) (beq_iff_eq.mp htab).symm
    · exact .code (.char c)
    · rw [Bool.or_eq_true, beq_iff_eq, beq_iff_eq, not_or] at hself
      exact .plain hself.1 hself.2 (Bool.eq_false_iff.mpr hhidden)

lemma exists_escapeCode_eq_cons (n : Nat) : ∃ behind, escapeCode n = '\\' :: behind := by
  unfold escapeCode
  split_ifs <;> exact ⟨_, rfl⟩

lemma isVisible_hexDigits (h : c ∈ hexDigits w n) : IsVisible c := by
  have hdigits : ∀ n < 16, IsVisible (Nat.digitChar n) := by decide
  obtain ⟨i, -, rfl⟩ := List.mem_map.mp h
  exact hdigits _ (Nat.mod_lt _ (by decide))

lemma isVisible_escapeCode (h : c ∈ escapeCode n) : IsVisible c := by
  have hmarked {mark : Char} {w : Nat} (hmark : IsVisible mark)
      (h : c ∈ '\\' :: mark :: hexDigits w n) : IsVisible c := by
    rw [List.mem_cons, List.mem_cons] at h
    rcases h with rfl | rfl | h
    · decide
    · exact hmark
    · exact isVisible_hexDigits h
  unfold escapeCode at h
  split_ifs at h
  · exact hmarked (by decide) h
  · exact hmarked (by decide) h
  · exact hmarked (by decide) h

namespace Written

variable {p : CodePoint} {cs : List Char}

/-- What is written for a code point is read back as it, whatever is written behind. -/
theorem readPoint? (h : Written quote p cs) (rest : List Char) :
    readPoint? (cs ++ rest) = some (p, rest) := by
  cases h with
  | marked hmark _ hletter =>
    rw [← hletter]
    exact readPoint?_letter hmark rest
  | code p => rw [readPoint?_escapeCode p.number_lt, CodePoint.ofNat_number]
  | plain _ hslash _ => exact readPoint?_of_ne hslash rest

/-- What is written for a code point does not begin like the end of the literal. -/
lemma exists_eq_cons (hslash : '\\' ≠ quote) (h : Written quote p cs) :
    ∃ first behind, cs = first :: behind ∧ first ≠ quote := by
  cases h with
  | marked => exact ⟨_, _, rfl, hslash⟩
  | code _ =>
    obtain ⟨behind, hcode⟩ := exists_escapeCode_eq_cons p.number
    exact ⟨_, behind, hcode, hslash⟩
  | plain hquote => exact ⟨_, _, rfl, hquote⟩

lemma isVisible (h : Written quote p cs) : ∀ c ∈ cs, IsVisible c := by
  cases h with
  | marked _ hvisible _ =>
    rw [List.forall_mem_cons, List.forall_mem_singleton]
    exact ⟨by decide, hvisible⟩
  | code _ => exact fun c => isVisible_escapeCode
  | plain _ _ hprintable =>
    rw [List.forall_mem_singleton]
    exact isVisible_of_isUnprintable hprintable

end Written

/-! ### Whole literals -/

lemma quoteFor_eq (ps : List CodePoint) : quoteFor ps = '\'' ∨ quoteFor ps = '"' := by
  unfold quoteFor
  split_ifs
  · exact .inr rfl
  · exact .inl rfl

/-- The inside of a literal is told apart by reading it point by point up to the quote. -/
lemma inside_append_inj (hquote : quote = '\'' ∨ quote = '"') {ps ps' : List CodePoint}
    {r r' : List Char}
    (h : ps.flatMap (escapePoint quote) ++ quote :: r
      = ps'.flatMap (escapePoint quote) ++ quote :: r') : ps = ps' ∧ r = r' := by
  have hslash : '\\' ≠ quote := by rcases hquote with rfl | rfl <;> decide
  induction ps generalizing ps' with
  | nil =>
    cases ps' with
    | nil => exact ⟨rfl, (List.cons.inj h).2⟩
    | cons p' ps' =>
      have hp' := written_escapePoint hquote p'
      obtain ⟨first, behind, hfirst, hne⟩ := hp'.exists_eq_cons hslash
      rw [List.flatMap_nil, List.flatMap_cons, hfirst] at h
      exact absurd (List.cons.inj h).1.symm hne
  | cons p ps ih =>
    have hp := written_escapePoint hquote p
    cases ps' with
    | nil =>
      obtain ⟨first, behind, hfirst, hne⟩ := hp.exists_eq_cons hslash
      rw [List.flatMap_nil, List.flatMap_cons, hfirst] at h
      exact absurd (List.cons.inj h).1 hne
    | cons p' ps' =>
      rw [List.flatMap_cons, List.flatMap_cons, List.append_assoc, List.append_assoc] at h
      have hread := congrArg Quoted.readPoint? h
      rw [hp.readPoint?, (written_escapePoint hquote p').readPoint?, Option.some.injEq,
        Prod.mk.injEq] at hread
      obtain ⟨rfl, hrest⟩ := hread
      obtain ⟨rfl, rfl⟩ := ih hrest
      exact ⟨rfl, rfl⟩

lemma encode_append (ps : List CodePoint) (rest : List Char) :
    encode ps ++ rest
      = quoteFor ps :: (ps.flatMap (escapePoint (quoteFor ps)) ++ quoteFor ps :: rest) := by
  simp [encode]

/-- Texts with one literal are equal, and nothing that stands behind a literal belongs to it. -/
theorem encode_append_inj {ps ps' : List CodePoint} {r r' : List Char}
    (h : encode ps ++ r = encode ps' ++ r') : ps = ps' ∧ r = r' := by
  rw [encode_append, encode_append] at h
  obtain ⟨hquotes, hinside⟩ := List.cons.inj h
  rw [← hquotes] at hinside
  exact inside_append_inj (quoteFor_eq ps) hinside

/-- Every character of a literal is visible. -/
theorem isVisible_encode (ps : List CodePoint) : ∀ c ∈ encode ps, IsVisible c := by
  have hquote := quoteFor_eq ps
  have hvisible : IsVisible (quoteFor ps) := by rcases hquote with h | h <;> (rw [h]; decide)
  rw [encode, List.forall_mem_append, List.forall_mem_cons, List.forall_mem_flatMap,
    List.forall_mem_singleton]
  exact ⟨⟨hvisible, fun p _ => (written_escapePoint hquote p).isVisible⟩, hvisible⟩

end Quoted

end QueryLint
