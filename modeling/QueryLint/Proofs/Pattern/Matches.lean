import Mathlib.Tactic.Common
import QueryLint.Pattern.Matches

/-!
# Stretches that a pattern matches

What can be said about a match from the pattern alone:

* `Matches.le`, `Matches.le_length`: a match lies inside the text;
* `matches_many_iff`: a run is a stretch of characters of its class;
* `Matches.lt`: a pattern that always reads something (`consumes`) has no empty match;
* `Matches.exists_class`, `Matches.exists_firstClass`: which classes the characters of a match, and
  the first of them, come from.
-/

namespace QueryLint

namespace Pattern

/-- The character at an offset belongs to the class; behind the text there is none. -/
def ReadAt (s : CharClass) (t : List Char) (i : Nat) : Prop :=
  ∃ c, t[i]? = some c ∧ s.contains c

variable {t : List Char} {p q : Pattern} {s : CharClass} {i j k : Nat}

lemma readAt_iff_any : ReadAt s t i ↔ t[i]?.any s.contains = true := by
  simp [ReadAt, Option.any_eq_true]

lemma ReadAt.lt_length (h : ReadAt s t i) : i < t.length := by
  obtain ⟨c, hc, -⟩ := h
  exact (List.getElem?_eq_some_iff.mp hc).1

/-! ### One step of a pattern -/

lemma matches_empty_iff : Matches t empty i j ↔ j = i ∧ i ≤ t.length := by
  constructor
  · rintro ⟨h⟩
    exact ⟨rfl, h⟩
  · rintro ⟨rfl, h⟩
    exact .empty h

lemma matches_one_iff : Matches t (one s) i j ↔ j = i + 1 ∧ ReadAt s t i := by
  constructor
  · rintro (_ | ⟨hc, hs⟩)
    exact ⟨rfl, _, hc, hs⟩
  · rintro ⟨rfl, c, hc, hs⟩
    exact .one hc hs

lemma matches_boundary_iff : Matches t boundary i j ↔ j = i ∧ i ≤ t.length ∧ AtBoundary t i := by
  constructor
  · rintro (_ | _ | ⟨h, hb⟩)
    exact ⟨rfl, h, hb⟩
  · rintro ⟨rfl, h, hb⟩
    exact .boundary h hb

lemma matches_many1_iff :
    Matches t (many1 s) i j ↔ ReadAt s t i ∧ Matches t (many s) (i + 1) j := by
  constructor
  · intro h
    cases h with
    | many1 hc hs h => exact ⟨⟨_, hc, hs⟩, h⟩
  · rintro ⟨⟨c, hc, hs⟩, h⟩
    exact .many1 hc hs h

lemma matches_seq_iff : Matches t (seq p q) i k ↔ ∃ j, Matches t p i j ∧ Matches t q j k := by
  constructor
  · intro h
    cases h with
    | seq hp hq => exact ⟨_, hp, hq⟩
  · rintro ⟨j, hp, hq⟩
    exact .seq hp hq

lemma matches_alt_iff : Matches t (alt p q) i j ↔ Matches t p i j ∨ Matches t q i j := by
  constructor
  · intro h
    cases h with
    | altLeft h => exact .inl h
    | altRight h => exact .inr h
  · rintro (h | h)
    · exact .altLeft h
    · exact .altRight h

lemma matches_opt_iff :
    Matches t (opt p) i j ↔ Matches t p i j ∨ (j = i ∧ i ≤ t.length) := by
  constructor
  · intro h
    cases h with
    | optNone h => exact .inr ⟨rfl, h⟩
    | optSome h => exact .inl h
  · rintro (h | ⟨rfl, h⟩)
    · exact .optSome h
    · exact .optNone h

/-! ### The ends of a match -/

theorem Matches.bounds (h : Matches t p i j) : i ≤ j ∧ j ≤ t.length := by
  induction h with
  | empty h | boundary h | manyNil h | optNone h => exact ⟨Nat.le_refl _, h⟩
  | one hc hs =>
    have hr : ReadAt _ t _ := ⟨_, hc, hs⟩
    exact ⟨by omega, hr.lt_length⟩
  | manyCons _ _ _ ih | many1 _ _ _ ih => omega
  | seq _ _ ihp ihq => omega
  | altLeft _ ih | altRight _ ih | optSome _ ih => exact ih

lemma Matches.le (h : Matches t p i j) : i ≤ j := h.bounds.1

lemma Matches.le_length (h : Matches t p i j) : j ≤ t.length := h.bounds.2

/-- **Runs.**  A run of a class is a stretch of the text whose characters all belong to it. -/
theorem matches_many_iff :
    Matches t (many s) i j ↔ i ≤ j ∧ j ≤ t.length ∧ ∀ m, i ≤ m → m < j → ReadAt s t m := by
  constructor
  · intro h
    refine ⟨h.le, h.le_length, ?_⟩
    generalize hp : many s = p at h
    induction h with
    | manyNil => intro m h1 h2; omega
    | @manyCons s' i j c hc hs _ ih =>
      obtain rfl : s = s' := by simpa using hp
      intro m h1 h2
      by_cases hm : m = i
      · exact hm ▸ ⟨c, hc, hs⟩
      · exact ih rfl m (by omega) h2
    | _ => cases hp
  · rintro ⟨hij, hj, hr⟩
    -- from the right end of the run to its left end
    induction hd : j - i generalizing i with
    | zero =>
      obtain rfl : j = i := by omega
      exact .manyNil hj
    | succ d ih =>
      obtain ⟨c, hc, hs⟩ := hr i (Nat.le_refl i) (by omega)
      refine .manyCons hc hs (ih (by omega) (fun m h1 h2 => hr m (by omega) h2) (by omega))

/-! ### The characters of a match -/

/-- The classes that the pattern reads characters of. -/
def classes : Pattern → List CharClass
  | empty | boundary => []
  | one s | many s | many1 s => [s]
  | seq p q | alt p q => p.classes ++ q.classes
  | opt p => p.classes

/-- Whether every match of the pattern has a character. -/
def consumes : Pattern → Bool
  | empty | boundary | many _ | opt _ => false
  | one _ | many1 _ => true
  | seq p q => p.consumes || q.consumes
  | alt p q => p.consumes && q.consumes

/-- The classes that the first character of a match can come from. -/
def firstClasses : Pattern → List CharClass
  | empty | boundary => []
  | one s | many s | many1 s => [s]
  | seq p q => if p.consumes then p.firstClasses else p.firstClasses ++ q.firstClasses
  | alt p q => p.firstClasses ++ q.firstClasses
  | opt p => p.firstClasses

theorem Matches.lt (h : Matches t p i j) (hp : p.consumes = true) : i < j := by
  induction h with
  | empty | boundary | manyNil | manyCons | optNone | optSome => simp [consumes] at hp
  | one => omega
  | many1 _ _ h =>
    have := h.le
    omega
  | seq h₁ h₂ ihp ihq =>
    have := h₁.le
    have := h₂.le
    rcases Bool.or_eq_true _ _ ▸ hp with hp | hq
    · have := ihp hp
      omega
    · have := ihq hq
      omega
  | altLeft _ ih => exact ih (Bool.and_eq_true _ _ ▸ hp).1
  | altRight _ ih => exact ih (Bool.and_eq_true _ _ ▸ hp).2

theorem Matches.exists_class (h : Matches t p i j) {m : Nat} (him : i ≤ m) (hmj : m < j) :
    ∃ s ∈ p.classes, ReadAt s t m := by
  induction h with
  | empty | boundary | manyNil | optNone => omega
  | @one s i c hc hs =>
    obtain rfl : m = i := by omega
    exact ⟨s, by simp [classes], c, hc, hs⟩
  | @manyCons s i j c hc hs _ ih | @many1 s i j c hc hs _ ih =>
    by_cases hm : m = i
    · exact ⟨s, by simp [classes], c, hm ▸ hc, hs⟩
    · exact ih (by omega) hmj
  | @seq p q i j k _ _ ihp ihq =>
    by_cases hm : m < j
    · obtain ⟨s, hs, hr⟩ := ihp him hm
      exact ⟨s, List.mem_append_left _ hs, hr⟩
    · obtain ⟨s, hs, hr⟩ := ihq (by omega) hmj
      exact ⟨s, List.mem_append_right _ hs, hr⟩
  | altLeft _ ih =>
    obtain ⟨s, hs, hr⟩ := ih him hmj
    exact ⟨s, List.mem_append_left _ hs, hr⟩
  | altRight _ ih =>
    obtain ⟨s, hs, hr⟩ := ih him hmj
    exact ⟨s, List.mem_append_right _ hs, hr⟩
  | optSome _ ih => exact ih him hmj

theorem Matches.exists_firstClass (h : Matches t p i j) (hij : i < j) :
    ∃ s ∈ p.firstClasses, ReadAt s t i := by
  induction h with
  | empty | boundary | manyNil | optNone => omega
  | @one s _ c hc hs | @manyCons s _ _ c hc hs | @many1 s _ _ c hc hs =>
    exact ⟨s, by simp [firstClasses], c, hc, hs⟩
  | @seq p q i j k hp hq ihp ihq =>
    rw [firstClasses]
    by_cases hm : i < j
    · obtain ⟨s, hs, hr⟩ := ihp hm
      refine ⟨s, ?_, hr⟩
      split
      · exact hs
      · exact List.mem_append_left _ hs
    · -- nothing was read by `p`, so `p` need not consume and `q` starts here
      have hle := hp.le
      obtain rfl : i = j := by omega
      have hn : ¬ p.consumes = true := fun hc => Nat.lt_irrefl i (hp.lt hc)
      obtain ⟨s, hs, hr⟩ := ihq hij
      rw [if_neg hn]
      exact ⟨s, List.mem_append_right _ hs, hr⟩
  | altLeft _ ih =>
    obtain ⟨s, hs, hr⟩ := ih hij
    exact ⟨s, List.mem_append_left _ hs, hr⟩
  | altRight _ ih =>
    obtain ⟨s, hs, hr⟩ := ih hij
    exact ⟨s, List.mem_append_right _ hs, hr⟩
  | optSome _ ih => exact ih hij

end Pattern

/-! ### Letters and their case -/

lemma isWord_toLower (c : Char) : isWord c.toLower = isWord c := by
  unfold Char.toLower
  split
  next hrange =>
    delta isWord Char.isAlphanum Char.isAlpha Char.isUpper Char.isLower
    grind
  next => rfl

/-- Only letters have a case. -/
lemma toLower_of_not_isWord {c : Char} (h : isWord c = false) : c.toLower = c := by
  refine dif_neg fun hrange => ?_
  have hupper : c.isUpper = true := by
    show decide (c.val ≥ 'A'.val ∧ c.val ≤ 'Z'.val) = true
    exact decide_eq_true hrange
  have hword : isWord c = true := by
    show (((c.isUpper || c.isLower) || c.isDigit) || c == '_') = true
    simp only [hupper, Bool.true_or]
  rw [h] at hword
  cases hword

lemma eq_of_toLower_eq {c d : Char} (h : c.toLower = d.toLower) (hc : isWord c = false) :
    c = d := by
  have hd : isWord d = false := by rw [← isWord_toLower, ← h, isWord_toLower, hc]
  rwa [toLower_of_not_isWord hc, toLower_of_not_isWord hd] at h

/-! ### Classes without a common character -/

namespace CharClass

/-- Whether two classes have no character in common, as far as this can be told from their form. -/
def disjoint : CharClass → CharClass → Bool
  | exactly a, exactly b => a.toLower != b.toLower
  | exactly a, space | space, exactly a => !isSpace a.toLower
  | exactly a, word | word, exactly a => !isWord a.toLower
  | space, word | word, space => true
  | exactly a, butNot b | butNot b, exactly a => a == b && !isWord a
  | _, _ => false

variable {s s' : CharClass} {a b c : Char}

lemma isWord_of_isSpace (h : isSpace c = true) : isWord c = false := by
  simp only [isSpace, Bool.or_eq_true, beq_iff_eq] at h
  rcases h with ((((rfl | rfl) | rfl) | rfl) | rfl) | rfl <;> decide

lemma toLower_of_isSpace (h : isSpace c = true) : c.toLower = c :=
  toLower_of_not_isWord (isWord_of_isSpace h)

/-- A letter is compared up to case, and whitespace has no case. -/
lemma not_space_of_exactly (ha : (!isSpace a.toLower) = true) (hc : (exactly a).contains c = true) :
    space.contains c = false := by
  by_contra hsp
  rw [Bool.not_eq_false, contains] at hsp
  rw [contains, beq_iff_eq] at hc
  rw [hc, toLower_of_isSpace hsp, hsp] at ha
  cases ha

/-- A letter is compared up to case, and both cases are word characters. -/
lemma not_word_of_exactly (ha : (!isWord a.toLower) = true) (hc : (exactly a).contains c = true) :
    word.contains c = false := by
  rw [contains, beq_iff_eq] at hc
  rwa [hc, isWord_toLower, Bool.not_eq_true'] at ha

/-- A character without a case is alone in its class. -/
lemma not_butNot_of_exactly (h : (a == b && !isWord a) = true)
    (hc : (exactly a).contains c = true) : (butNot b).contains c = false := by
  obtain ⟨rfl, ha⟩ : a = b ∧ isWord a = false := by simpa using h
  rw [contains, beq_iff_eq] at hc
  simp [contains, eq_of_toLower_eq hc ha]

theorem not_contains_of_disjoint (h : s.disjoint s' = true) (hs : s.contains c = true) :
    s'.contains c = false := by
  by_contra hs'
  rw [Bool.not_eq_false] at hs'
  cases s <;> cases s' <;> try exact absurd h Bool.false_ne_true
  case exactly.exactly a b =>
    rw [contains, beq_iff_eq] at hs hs'
    exact bne_iff_ne.mp h (hs.trans hs'.symm)
  case exactly.space a => exact Bool.false_ne_true ((not_space_of_exactly h hs).symm.trans hs')
  case space.exactly a => exact Bool.false_ne_true ((not_space_of_exactly h hs').symm.trans hs)
  case exactly.word a => exact Bool.false_ne_true ((not_word_of_exactly h hs).symm.trans hs')
  case word.exactly a => exact Bool.false_ne_true ((not_word_of_exactly h hs').symm.trans hs)
  case space.word => exact Bool.false_ne_true ((isWord_of_isSpace hs).symm.trans hs')
  case word.space => exact Bool.false_ne_true ((isWord_of_isSpace hs').symm.trans hs)
  case exactly.butNot a b => exact Bool.false_ne_true ((not_butNot_of_exactly h hs).symm.trans hs')
  case butNot.exactly b a => exact Bool.false_ne_true ((not_butNot_of_exactly h hs').symm.trans hs)

end CharClass

end QueryLint
