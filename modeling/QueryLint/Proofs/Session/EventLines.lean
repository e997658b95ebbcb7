import Mathlib.Data.List.TakeWhile
import Mathlib.Tactic.Common
import QueryLint.Event
import QueryLint.Proofs.Json.Reading

/-!
# Event lines

What an event writes to the log is one line of visible characters, and no two events that differ
write the same line (`event_lines_visible_and_unambiguous`), whatever their texts imitate.

The values in a line are told apart by reading from the left.  The first character of a literal
gives the form of the value (`form?`).  A text, an array and an object say themselves where they
end; a whole number ends where nothing follows that could belong to it (`Stops`), and behind a value
inside others stands a comma or a closing bracket.  So a literal determines the value and what
stands behind it, by induction on the value (`isApart_of_isPlain`).

The texts of an event must be proper.  Texts of characters are, and so are texts that were read: an
event made of values from a JSON text is plain unless a decimal is among them (`isPlain_of_read`).
-/

namespace QueryLint

/-- A value of texts, whole numbers, truth values and nulls, in arrays and objects. -/
inductive Json.IsPlain : Json → Prop
  | null : IsPlain .null
  | bool (b : Bool) : IsPlain (.bool b)
  | int (n : Int) : IsPlain (.int n)
  | str {t : Text} : t.IsProper → IsPlain (.str t)
  | arr {items : List Json} : (∀ j ∈ items, IsPlain j) → IsPlain (.arr items)
  | obj {fields : Fields} : (∀ f ∈ fields, f.1.IsProper) → (∀ f ∈ fields, IsPlain f.2) →
      IsPlain (.obj fields)

namespace Json

mutual

/-- Whether a decimal is in a value. -/
def hasDecimal : Json → Bool
  | decimal _ => true
  | arr items => itemsHaveDecimal items
  | obj fields => fieldsHaveDecimal fields
  | _ => false

/-- Whether a decimal is in one of several values. -/
def itemsHaveDecimal : List Json → Bool
  | [] => false
  | j :: rest => j.hasDecimal || itemsHaveDecimal rest

/-- Whether a decimal is in the value of one of several fields. -/
def fieldsHaveDecimal : Fields → Bool
  | [] => false
  | (_, j) :: rest => j.hasDecimal || fieldsHaveDecimal rest

end

lemma itemsHaveDecimal_eq_any (items : List Json) :
    itemsHaveDecimal items = items.any hasDecimal := by
  induction items with
  | nil => rfl
  | cons j rest ih => rw [itemsHaveDecimal, ih, List.any_cons]

lemma fieldsHaveDecimal_eq_any (fields : Fields) :
    fieldsHaveDecimal fields = fields.any fun f => f.2.hasDecimal := by
  induction fields with
  | nil => rfl
  | cons f rest ih => rw [fieldsHaveDecimal, ih, List.any_cons]

/-- A proper value without decimals is plain. -/
lemma IsProper.isPlain {j : Json} (h : j.IsProper) (hwhole : j.hasDecimal = false) :
    j.IsPlain := by
  induction h with
  | null => exact .null
  | bool b => exact .bool b
  | int n => exact .int n
  | decimal d => cases hwhole
  | str ht => exact .str ht
  | arr _ ih =>
    rw [hasDecimal, itemsHaveDecimal_eq_any, List.any_eq_false] at hwhole
    exact .arr fun j hj => ih j hj (eq_false_of_ne_true (hwhole j hj))
  | obj hkeys _ ih =>
    rw [hasDecimal, fieldsHaveDecimal_eq_any, List.any_eq_false] at hwhole
    exact .obj hkeys fun f hf => ih f hf (eq_false_of_ne_true (hwhole f hf))

end Json

namespace Event

open Quoted (encode)

variable {j j' : Json} {r r' : List Char} {c : Char}

/-! ### Literals as characters -/

/-- The characters of a literal. -/
def chars (j : Json) : List Char :=
  (literal j).toList

/-- The characters of a field. -/
def fieldChars (f : Json.Text × Json) : List Char :=
  encode f.1.codePoints ++ ':' :: ' ' :: chars f.2

/-- Parts that stand behind another one, each behind a comma. -/
def behind (parts : List (List Char)) : List Char :=
  parts.flatMap fun part => ',' :: ' ' :: part

/-- Several parts with commas between them. -/
def joined : List (List Char) → List Char
  | [] => []
  | part :: rest => part ++ behind rest

lemma intercalate_eq_joined (parts : List (List Char)) :
    [',', ' '].intercalate parts = joined parts := by
  induction parts with
  | nil => rfl
  | cons part rest ih =>
    cases rest with
    | nil => simp [joined, behind]
    | cons next rest =>
      rw [List.intercalate_cons_cons, ih]
      simp [joined, behind]

lemma literalItems_eq_map (items : List Json) : literalItems items = items.map literal := by
  induction items with
  | nil => rfl
  | cons j rest ih => rw [literalItems, ih, List.map_cons]

lemma literalFields_eq_map (fields : Json.Fields) : literalFields fields
    = fields.map fun f => quotedPoints f.1.codePoints ++ ": " ++ literal f.2 := by
  induction fields with
  | nil => rfl
  | cons f rest ih => rw [literalFields, ih, List.map_cons]

lemma chars_str (t : Json.Text) : chars (.str t) = encode t.codePoints := by
  rw [chars, literal, quotedPoints, String.toList_ofList]

lemma chars_arr (items : List Json) :
    chars (.arr items) = '[' :: (joined (items.map chars) ++ [']']) := by
  rw [chars, literal, String.toList_append, String.toList_append, String.toList_intercalate,
    literalItems_eq_map, List.map_map, ← intercalate_eq_joined]
  rfl

lemma chars_obj (fields : Json.Fields) :
    chars (.obj fields) = '\x7b' :: (joined (fields.map fieldChars) ++ ['\x7d']) := by
  have hfield : String.toList ∘ (fun f : Json.Text × Json =>
      quotedPoints f.1.codePoints ++ ": " ++ literal f.2) = fieldChars := by
    funext f
    simp [fieldChars, chars, quotedPoints]
  rw [chars, literal, String.toList_append, String.toList_append, String.toList_intercalate,
    literalFields_eq_map, List.map_map, hfield, ← intercalate_eq_joined]
  rfl

/-! ### Whole numbers -/

/-- The characters of whole numbers. -/
def isNumeral (c : Char) : Bool :=
  c == '-' || c.isDigit

/-- The number that its characters stand for. -/
def numberOf : List Char → Int
  | '-' :: digits => -(Nat.ofDigitChars 10 digits 0 : Int)
  | digits => Nat.ofDigitChars 10 digits 0

lemma chars_int (n : Int) : chars (.int n)
    = if 0 ≤ n then Nat.toDigits 10 n.toNat else '-' :: Nat.toDigits 10 (-n).toNat := by
  rw [chars, literal, Int.toString_eq_repr, Int.repr_eq_if]
  split_ifs
  · exact Nat.toList_repr
  · rw [String.toList_append, Nat.toList_repr]
    rfl

lemma chars_int_ne_nil (n : Int) : chars (.int n) ≠ [] := by
  rw [chars_int]
  split_ifs
  · exact Nat.toDigits_ne_nil
  · exact List.cons_ne_nil _ _

lemma isDigit_of_mem_toDigits {n : Nat} (h : c ∈ Nat.toDigits 10 n) : c.isDigit = true :=
  Nat.isDigit_of_mem_toDigits (by decide) (by decide) h

lemma isNumeral_of_mem_chars {n : Int} (h : c ∈ chars (.int n)) : isNumeral c = true := by
  rw [chars_int] at h
  split_ifs at h
  · simp [isNumeral, isDigit_of_mem_toDigits h]
  · rcases List.mem_cons.mp h with rfl | h
    · rfl
    · simp [isNumeral, isDigit_of_mem_toDigits h]

lemma numberOf_chars (n : Int) : numberOf (chars (.int n)) = n := by
  rw [chars_int]
  split_ifs
  · cases hcs : Nat.toDigits 10 n.toNat with
    | nil => exact absurd hcs Nat.toDigits_ne_nil
    | cons c cs =>
      have hc : c ≠ '-' := by
        rintro rfl
        have := isDigit_of_mem_toDigits (hcs ▸ List.mem_cons_self)
        contradiction
      rw [numberOf, ← hcs, Nat.ofDigitChars_ten_toDigits]
      · omega
      · simpa using hc
  · rw [numberOf, Nat.ofDigitChars_ten_toDigits]
    omega

/-- What may stand behind a value: nothing that could belong to a whole number. -/
def Stops (r : List Char) : Prop :=
  ∀ c ∈ r.head?, isNumeral c = false

lemma int_append_inj {n m : Int} (hr : Stops r) (hr' : Stops r')
    (h : chars (.int n) ++ r = chars (.int m) ++ r') : n = m ∧ r = r' := by
  have htake {k : Int} {r : List Char} (hr : Stops r) :
      (chars (.int k) ++ r).takeWhile isNumeral = chars (.int k) := by
    rw [List.takeWhile_append_of_pos fun c hc => isNumeral_of_mem_chars hc]
    cases r with
    | nil => simp
    | cons c r => simp [hr c rfl]
  have hchars : chars (.int n) = chars (.int m) := by
    rw [← htake hr, h, htake hr']
  have hn : n = m := by rw [← numberOf_chars n, hchars, numberOf_chars]
  subst hn
  exact ⟨rfl, List.append_cancel_left h⟩

/-! ### Forms of values -/

/-- The forms of values, as a reader tells them apart. -/
inductive Form where
  | nothing
  | truth
  | number
  | text
  | items
  | fields
deriving DecidableEq

/-- The form of a value. -/
def formOf : Json → Form
  | .null => .nothing
  | .bool _ => .truth
  | .int _ | .decimal _ => .number
  | .str _ => .text
  | .arr _ => .items
  | .obj _ => .fields

/-- The form of the value that stands first, if a value stands there. -/
def form? : List Char → Option Form
  | [] => none
  | c :: _ =>
    if c = 'N' then some .nothing
    else if c = 'T' ∨ c = 'F' then some .truth
    else if c = '\'' ∨ c = '"' then some .text
    else if c = '[' then some .items
    else if c = '\x7b' then some .fields
    else if isNumeral c then some .number
    else none

lemma form?_encode_append (ps : List CodePoint) (r : List Char) :
    form? (encode ps ++ r) = some .text := by
  rw [Quoted.encode_append]
  rcases Quoted.quoteFor_eq ps with h | h <;> (rw [h]; rfl)

lemma form?_cons_of_isNumeral (h : isNumeral c = true) (r : List Char) :
    form? (c :: r) = some .number := by
  have hne {d : Char} (hd : isNumeral d = false) : c ≠ d := by
    rintro rfl
    exact Bool.false_ne_true (hd.symm.trans h)
  have hnothing : c ≠ 'N' := hne rfl
  have htruth : c ≠ 'T' ∧ c ≠ 'F' := ⟨hne rfl, hne rfl⟩
  have htext : c ≠ '\'' ∧ c ≠ '"' := ⟨hne rfl, hne rfl⟩
  have hopen : c ≠ '[' ∧ c ≠ '\x7b' := ⟨hne rfl, hne rfl⟩
  simp [form?, hnothing, htruth, htext, hopen, h]

/-- The first character of a literal tells the form of the value. -/
lemma form?_chars_append (h : j.IsPlain) (r : List Char) :
    form? (chars j ++ r) = some (formOf j) := by
  cases h with
  | null => rfl
  | bool b => cases b <;> rfl
  | int n =>
    cases hcs : chars (.int n) with
    | nil => exact absurd hcs (chars_int_ne_nil n)
    | cons c cs =>
      have hc : isNumeral c = true := isNumeral_of_mem_chars (hcs ▸ List.mem_cons_self)
      exact form?_cons_of_isNumeral hc (cs ++ r)
  | str _ =>
    rw [chars_str]
    exact form?_encode_append _ r
  | arr _ =>
    rw [chars_arr]
    rfl
  | obj _ _ =>
    rw [chars_obj]
    rfl

/-! ### Several values -/

section Several

variable {α : Type} {write : α → List Char} {good : α → Prop} {close : Char}

lemma stops_comma (r : List Char) : Stops (',' :: r) := by
  rintro c ⟨⟩
  rfl

lemma stops_close (hclose : close = ']' ∨ close = '\x7d') (r : List Char) :
    Stops (close :: r) := by
  rcases hclose with rfl | rfl <;> (rintro c ⟨⟩; rfl)

/-- The part is told from every other good one, whatever may stand behind the two. -/
def IsApart (write : α → List Char) (good : α → Prop) (x : α) : Prop :=
  ∀ y, good y → ∀ r r', Stops r → Stops r' → write x ++ r = write y ++ r' → x = y ∧ r = r'

lemma stops_behind (hclose : close = ']' ∨ close = '\x7d') (parts : List (List Char))
    (r : List Char) : Stops (behind parts ++ close :: r) := by
  cases parts with
  | nil => exact stops_close hclose r
  | cons part parts => exact stops_comma _

lemma behind_append_inj (hclose : close = ']' ∨ close = '\x7d') {xs ys : List α}
    (hxs : ∀ x ∈ xs, IsApart write good x) (hys : ∀ y ∈ ys, good y)
    (h : behind (xs.map write) ++ close :: r = behind (ys.map write) ++ close :: r') :
    xs = ys ∧ r = r' := by
  have hcomma : close ≠ ',' := by rcases hclose with rfl | rfl <;> decide
  induction xs generalizing ys with
  | nil =>
    cases ys with
    | nil => exact ⟨rfl, (List.cons.inj h).2⟩
    | cons y ys => exact absurd (List.cons.inj h).1 hcomma
  | cons x xs ih =>
    cases ys with
    | nil => exact absurd (List.cons.inj h).1.symm hcomma
    | cons y ys =>
      rw [List.forall_mem_cons] at hxs hys
      simp only [behind, List.map_cons, List.flatMap_cons, List.cons_append, List.append_assoc,
        List.cons.injEq, true_and] at h
      obtain ⟨rfl, hrest⟩ :=
        hxs.1 y hys.1 _ _ (stops_behind hclose _ r) (stops_behind hclose _ r') h
      obtain ⟨rfl, rfl⟩ := ih hxs.2 hys.2 hrest
      exact ⟨rfl, rfl⟩

/-- Several parts are told from others by reading one after another up to the closing bracket. -/
lemma joined_append_inj (hclose : close = ']' ∨ close = '\x7d')
    (hform : ∀ x, good x → ∀ r, form? (write x ++ r) ≠ none) {xs ys : List α}
    (hxs : ∀ x ∈ xs, good x) (hys : ∀ y ∈ ys, good y) (hapart : ∀ x ∈ xs, IsApart write good x)
    (h : joined (xs.map write) ++ close :: r = joined (ys.map write) ++ close :: r') :
    xs = ys ∧ r = r' := by
  have hopen {x : α} {xs : List α} (hx : good x) (r r' : List Char) :
      joined ((x :: xs).map write) ++ r ≠ close :: r' := by
    rw [List.map_cons, joined, List.append_assoc]
    intro h
    refine hform x hx (behind (xs.map write) ++ r) ?_
    rw [h]
    rcases hclose with rfl | rfl <;> rfl
  cases xs with
  | nil =>
    cases ys with
    | nil => exact ⟨rfl, (List.cons.inj h).2⟩
    | cons y ys => exact absurd h.symm (hopen (hys y List.mem_cons_self) _ _)
  | cons x xs =>
    cases ys with
    | nil => exact absurd h (hopen (hxs x List.mem_cons_self) _ _)
    | cons y ys =>
      rw [List.forall_mem_cons] at hapart hys
      rw [List.map_cons, List.map_cons, joined, joined, List.append_assoc, List.append_assoc] at h
      obtain ⟨rfl, hrest⟩ :=
        hapart.1 y hys.1 _ _ (stops_behind hclose _ r) (stops_behind hclose _ r') h
      obtain ⟨rfl, rfl⟩ := behind_append_inj hclose hapart.2 hys.2 hrest
      exact ⟨rfl, rfl⟩

end Several

/-! ### Values -/

lemma encode_codePoints_append_inj {t t' : Json.Text} (ht : t.IsProper) (ht' : t'.IsProper)
    (h : encode t.codePoints ++ r = encode t'.codePoints ++ r') : t = t' ∧ r = r' := by
  obtain ⟨hpoints, rfl⟩ := Quoted.encode_append_inj h
  exact ⟨ht.ext ht' hpoints, rfl⟩

lemma isApart_fieldChars {f : Json.Text × Json} (hkey : f.1.IsProper)
    (hvalue : IsApart chars Json.IsPlain f.2) :
    IsApart fieldChars (fun f => f.1.IsProper ∧ f.2.IsPlain) f := by
  rintro ⟨key', j'⟩ ⟨hkey', hj'⟩ r r' hr hr' h
  obtain ⟨key, j⟩ := f
  simp only [fieldChars, List.append_assoc] at h
  obtain ⟨rfl, hbehind⟩ := encode_codePoints_append_inj hkey hkey' h
  simp only [List.cons_append, List.cons.injEq, true_and] at hbehind
  obtain ⟨rfl, rfl⟩ := hvalue j' hj' r r' hr hr' hbehind
  exact ⟨rfl, rfl⟩

lemma formOf_eq_of_append_eq (h : j.IsPlain) (h' : j'.IsPlain)
    (heq : chars j ++ r = chars j' ++ r') : formOf j = formOf j' := by
  have := congrArg form? heq
  rwa [form?_chars_append h, form?_chars_append h', Option.some.injEq] at this

/-- A plain value is determined by its literal, and so is what stands behind it. -/
theorem isApart_of_isPlain (h : j.IsPlain) : IsApart chars Json.IsPlain j := by
  intro j' h' r r' hr hr' heq
  have hform := formOf_eq_of_append_eq h h' heq
  induction h generalizing j' r r' with
  | null =>
    cases h' with
    | null => exact ⟨rfl, List.append_cancel_left heq⟩
    | bool | int | str | arr | obj => cases hform
  | bool b =>
    cases h' with
    | bool b' =>
      have hhead := congrArg List.head? heq
      cases b <;> cases b'
      case false.false | true.true => exact ⟨rfl, List.append_cancel_left heq⟩
      case false.true | true.false => cases hhead
    | null | int | str | arr | obj => cases hform
  | int n =>
    cases h' with
    | int m =>
      obtain ⟨rfl, rfl⟩ := int_append_inj hr hr' heq
      exact ⟨rfl, rfl⟩
    | null | bool | str | arr | obj => cases hform
  | str ht =>
    cases h' with
    | str ht' =>
      rw [chars_str, chars_str] at heq
      obtain ⟨rfl, rfl⟩ := encode_codePoints_append_inj ht ht' heq
      exact ⟨rfl, rfl⟩
    | null | bool | int | arr | obj => cases hform
  | arr hitems ih =>
    cases h' with
    | arr hitems' =>
      have hapart : ∀ x ∈ _, IsApart chars Json.IsPlain x := fun x hx y hy r r' hr hr' h =>
        ih x hx y hy r r' hr hr' h (formOf_eq_of_append_eq (hitems x hx) hy h)
      simp only [chars_arr, List.cons_append, List.append_assoc, List.nil_append, List.cons.injEq,
        true_and] at heq
      obtain ⟨rfl, rfl⟩ := joined_append_inj (.inl rfl)
        (fun x hx r => by simp [form?_chars_append hx r]) hitems hitems' hapart heq
      exact ⟨rfl, rfl⟩
    | null | bool | int | str | obj => cases hform
  | obj hkeys hvalues ih =>
    cases h' with
    | obj hkeys' hvalues' =>
      have hapart : ∀ f ∈ _, IsApart fieldChars (fun f => f.1.IsProper ∧ f.2.IsPlain) f :=
        fun f hf => isApart_fieldChars (hkeys f hf) fun y hy r r' hr hr' h =>
          ih f hf y hy r r' hr hr' h (formOf_eq_of_append_eq (hvalues f hf) hy h)
      simp only [chars_obj, List.cons_append, List.append_assoc, List.nil_append, List.cons.injEq,
        true_and] at heq
      obtain ⟨rfl, rfl⟩ := joined_append_inj (.inr rfl)
        (fun f hf r => by simp [fieldChars, form?_encode_append])
        (fun f hf => ⟨hkeys f hf, hvalues f hf⟩) (fun f hf => ⟨hkeys' f hf, hvalues' f hf⟩)
        hapart heq
      exact ⟨rfl, rfl⟩
    | null | bool | int | str | arr => cases hform

/-! ### Visible characters -/

lemma isVisible_of_isNumeral (h : isNumeral c = true) : IsVisible c := by
  simp only [isNumeral, Bool.or_eq_true, beq_iff_eq, Char.isDigit, Bool.and_eq_true,
    decide_eq_true_eq, UInt32.le_iff_toNat_le] at h
  rcases h with rfl | ⟨hlow, hhigh⟩
  · decide
  · have hlow : 48 ≤ c.toNat := hlow
    have hhigh : c.toNat ≤ 57 := hhigh
    refine ⟨by omega, by omega, ?_⟩
    rintro rfl
    contradiction

/-- Visibility is asked of a fixed text by evaluation. -/
lemma isVisible_of_all {cs : List Char} (h : (cs.all fun c => decide (IsVisible c)) = true) :
    ∀ c ∈ cs, IsVisible c := fun c hc =>
  of_decide_eq_true (List.all_eq_true.mp h c hc)

lemma isVisible_joined {parts : List (List Char)} (h : ∀ part ∈ parts, ∀ c ∈ part, IsVisible c) :
    ∀ c ∈ joined parts, IsVisible c := by
  cases parts with
  | nil => exact fun c hc => absurd hc List.not_mem_nil
  | cons part parts =>
    rw [List.forall_mem_cons] at h
    simp only [joined, behind, List.forall_mem_append, List.forall_mem_flatMap,
      List.forall_mem_cons]
    exact ⟨h.1, fun part hpart => ⟨by decide, by decide, h.2 part hpart⟩⟩

/-- Every character of the literal of a plain value is visible. -/
theorem isVisible_chars (h : j.IsPlain) : ∀ c ∈ chars j, IsVisible c := by
  induction h with
  | null => exact isVisible_of_all rfl
  | bool b => cases b <;> exact isVisible_of_all rfl
  | int n => exact fun c hc => isVisible_of_isNumeral (isNumeral_of_mem_chars hc)
  | str _ =>
    rw [chars_str]
    exact Quoted.isVisible_encode _
  | arr _ ih =>
    rw [chars_arr, List.forall_mem_cons, List.forall_mem_append, List.forall_mem_singleton]
    exact ⟨by decide, isVisible_joined (List.forall_mem_map.mpr ih), by decide⟩
  | obj _ _ ih =>
    rw [chars_obj, List.forall_mem_cons, List.forall_mem_append, List.forall_mem_singleton]
    refine ⟨by decide, isVisible_joined (List.forall_mem_map.mpr fun f hf => ?_), by decide⟩
    simp only [fieldChars, List.forall_mem_append, List.forall_mem_cons]
    exact ⟨Quoted.isVisible_encode _, by decide, by decide, ih f hf⟩

/-! ### Events -/

/-- The texts of the event are proper and its details are plain. -/
structure IsPlain (e : Event) : Prop where
  kind : e.kind.IsProper
  keys : ∀ f ∈ e.details, f.1.IsProper
  values : ∀ f ∈ e.details, f.2.IsPlain
  user : ∀ name ∈ e.user, name.IsProper

variable {e e' : Event}

/-- Texts that were read are proper: an event is plain if it consists of values that were read, no
decimal among them. -/
theorem isPlain_of_read {kind details : List CodePoint}
    (hkind : Json.read kind = .ok (.str e.kind))
    (hdetails : Json.read details = .ok (.obj e.details))
    (huser : ∀ name ∈ e.user, ∃ user, Json.read user = .ok (.str name))
    (hwhole : (Json.obj e.details).hasDecimal = false) : e.IsPlain := by
  cases (Json.isProper_of_read hdetails).isPlain hwhole with
  | obj hkeys hvalues =>
    refine ⟨(Json.isProper_of_read hkind).text, hkeys, hvalues, fun name hname => ?_⟩
    obtain ⟨user, hread⟩ := huser name hname
    exact (Json.isProper_of_read hread).text

lemma IsPlain.record (h : e.IsPlain) : e.record.IsPlain := by
  have huser : ∀ f ∈ userFields e.user, f.1.IsProper ∧ f.2.IsPlain := by
    cases hname : e.user with
    | none => exact fun f hf => absurd hf List.not_mem_nil
    | some name =>
      rw [userFields]
      split_ifs
      · exact fun f hf => absurd hf List.not_mem_nil
      · rw [List.forall_mem_singleton]
        exact ⟨Json.Text.isProper_coe "user_id", .str (h.user name hname)⟩
  refine .obj ?_ ?_
  · simp only [List.forall_mem_cons]
    exact ⟨Json.Text.isProper_coe "event_type", Json.Text.isProper_coe "details",
      fun f hf => (huser f hf).1⟩
  · simp only [List.forall_mem_cons]
    exact ⟨.str h.kind, .obj h.keys h.values, fun f hf => (huser f hf).2⟩

lemma toList_entry_text (e : Event) (seconds : String) :
    (e.entry.text seconds).toList = "Analysis event: ".toList ++ chars e.record := by
  rw [entry, LogEntry.text, String.toList_append]
  rfl

/-- The user that the last fields of an event name; without them the name is empty. -/
def userOf : Json.Fields → Json.Text
  | [(_, .str name)] => name
  | _ => ""

lemma userOf_userFields {user : Option Json.Text} (h : ∀ name ∈ user, name.IsProper) :
    userOf (userFields user) = user.getD ("" : Json.Text) := by
  cases user with
  | none => rfl
  | some name =>
    rw [userFields]
    split_ifs with hempty
    · exact ((h name rfl).eq_empty hempty).symm
    · rfl

/-- The line of an event is a line of visible characters, and two events with one line have the same
kind, the same details and the same user, where no user and a user without a name count as equal. -/
theorem event_lines_visible_and_unambiguous (h : e.IsPlain) (h' : e'.IsPlain)
    (seconds seconds' : String) :
    (∀ c ∈ (e.entry.text seconds).toList, IsVisible c) ∧
      (e.entry.text seconds = e'.entry.text seconds' →
        e.kind = e'.kind ∧ e.details = e'.details ∧
          e.user.getD ("" : Json.Text) = e'.user.getD ("" : Json.Text)) := by
  constructor
  · rw [toList_entry_text, List.forall_mem_append]
    exact ⟨isVisible_of_all (by rw [String.toList_ofList]; rfl), isVisible_chars h.record⟩
  · intro heq
    have hchars : chars e.record ++ [] = chars e'.record ++ [] := by
      have hlists := congrArg String.toList heq
      rw [toList_entry_text, toList_entry_text] at hlists
      rw [List.append_cancel_left hlists]
    have hstops : Stops [] := fun c hc => absurd hc (Option.not_mem_none c)
    obtain ⟨hrecord, -⟩ :=
      isApart_of_isPlain h.record e'.record h'.record [] [] hstops hstops hchars
    simp only [record, Json.obj.injEq, List.cons.injEq, Prod.mk.injEq, Json.str.injEq, true_and]
      at hrecord
    obtain ⟨hkind, hdetails, huser⟩ := hrecord
    refine ⟨hkind, hdetails, ?_⟩
    rw [← userOf_userFields h.user, huser, userOf_userFields h'.user]

/-- An event with texts that look like the rest of a line, a line break and half of a pair. -/
def lookalike : Event where
  kind := "run', 'user_id': 'root"
  details :=
    [("a\": \"b", .arr [.int (-12), .str "1, 2]", .null]),
      ("\\\n", .obj [("]", .bool true),
        ("", .str (.ofCodePoints [.half 0xD800 rfl, .char '\u2028']))])]

lemma lookalike_isPlain : lookalike.IsPlain where
  kind := Json.Text.isProper_coe _
  keys := by
    simp only [lookalike, List.forall_mem_cons]
    exact ⟨Json.Text.isProper_coe _, Json.Text.isProper_coe _, List.forall_mem_nil _⟩
  values := by
    simp only [lookalike, List.forall_mem_cons]
    refine ⟨.arr ?_, .obj ?_ ?_, List.forall_mem_nil _⟩ <;> simp only [List.forall_mem_cons]
    · exact ⟨.int _, .str (Json.Text.isProper_coe _), .null, List.forall_mem_nil _⟩
    · exact ⟨Json.Text.isProper_coe _, Json.Text.isProper_coe _, List.forall_mem_nil _⟩
    · exact ⟨.bool _, .str (Json.Text.isProper_ofCodePoints _), List.forall_mem_nil _⟩
  user := fun name hname => absurd hname (Option.not_mem_none name)

lemma isPlain_with {kind user : Json.Text} (h : e.IsPlain) (hkind : kind.IsProper)
    (huser : user.IsProper) : { e with kind := kind, user := some user }.IsPlain :=
  { h with
    kind := hkind
    user := fun name hname => by rwa [← Option.some.inj hname] }

/-- The event does not write the line of the one that it imitates, and with an empty user it writes
the line that it writes without one. -/
theorem lookalike_not_mistaken :
    let genuine := { lookalike with kind := "run", user := some "root" }
    let nameless := { lookalike with user := some "" }
    (lookalike.IsPlain ∧ genuine.IsPlain ∧ nameless.IsPlain) ∧
      (∀ c ∈ (lookalike.entry.text "").toList, IsVisible c) ∧
      lookalike.entry.text "" ≠ genuine.entry.text "" ∧
      lookalike.entry.text "" = nameless.entry.text "" ∧
      lookalike.user.getD ("" : Json.Text) = nameless.user.getD ("" : Json.Text) := by
  intro genuine nameless
  have h := lookalike_isPlain
  have hgenuine : genuine.IsPlain :=
    isPlain_with h (Json.Text.isProper_coe "run") (Json.Text.isProper_coe "root")
  have hnameless : nameless.IsPlain := isPlain_with h h.kind (Json.Text.isProper_coe "")
  obtain ⟨hvisible, hforged⟩ := event_lines_visible_and_unambiguous h hgenuine "" ""
  have hkinds : lookalike.kind ≠ genuine.kind := by simp [lookalike, genuine]
  have hline : lookalike.entry.text "" = nameless.entry.text "" := rfl
  exact ⟨⟨h, hgenuine, hnameless⟩, hvisible, fun hlines => hkinds (hforged hlines).1, hline,
    ((event_lines_visible_and_unambiguous h hnameless "" "").2 hline).2.2⟩

end Event

end QueryLint
