import QueryLint.Proofs.Catalog.Summary
import QueryLint.Proofs.Pattern.Thinning
import QueryLint.Proofs.Pattern.Window

/-!
# Kinds of characters

The rules see less of a text than its characters.  They take letters up to ASCII case, they know one
whitespace character as well as another, and of all characters that are neither whitespace nor part
of a word they name nine only, the marks.  So characters of the same kind (`SameKind`) can stand for
each other: what is reported for a text depends on the kinds of its characters alone.

What carries this to the catalog is a property of the classes that its patterns are built from:
they take all characters of a kind or none (`CharClass.takesKinds`).
-/

namespace QueryLint

/-- The characters that rules name although they are no part of a word. -/
def marks : List Char :=
  ['*', '\x27', '%', '=', '<', '>', '(', ')', '#']

/-- Whether no rule has anything to say about the character: it is neither part of a word, nor
whitespace, nor a mark. -/
def isOther (c : Char) : Bool :=
  !isWord c && !isSpace c && !marks.contains c

/-- Two characters of the same kind: equal up to ASCII case, both whitespace, or both other. -/
def SameKind (c d : Char) : Prop :=
  c.toLower = d.toLower ∨ (isSpace c = true ∧ isSpace d = true) ∨
    (isOther c = true ∧ isOther d = true)

instance (c d : Char) : Decidable (SameKind c d) :=
  inferInstanceAs (Decidable (_ ∨ _))

/-- Whether the class takes all characters of a kind or none. -/
def CharClass.takesKinds : CharClass → Bool
  | exactly a => isWord a || marks.contains a
  | butNot a => marks.contains a
  | space | word | any => true

section

variable {a c d : Char} {s : CharClass}

/-! ### Marks and other characters -/

lemma of_mem_marks (h : a ∈ marks) : isWord a = false ∧ isSpace a = false ∧ a.toNat < 128 := by
  have hall : (marks.all fun m => !isWord m && !isSpace m && m.toNat < 128) = true := by decide
  simpa [and_assoc] using List.all_eq_true.mp hall a h

lemma isOther_iff : isOther c = true ↔ isWord c = false ∧ isSpace c = false ∧ c ∉ marks := by
  simp [isOther, and_assoc]

/-- Beyond ASCII all characters are other. -/
theorem isOther_of_not_ascii (h : 128 ≤ c.toNat) : isOther c = true := by
  refine isOther_iff.mpr ⟨?_, ?_, fun hmark => absurd (of_mem_marks hmark).2.2 (by omega)⟩
  · by_contra hword
    have hc : c.toNat = c.val.toNat := rfl
    have hz : 'z'.val.toNat = 122 := rfl
    have hZ : 'Z'.val.toNat = 90 := rfl
    have h9 : '9'.val.toNat = 57 := rfl
    rw [Bool.not_eq_false] at hword
    delta isWord Char.isAlphanum Char.isAlpha Char.isUpper Char.isLower Char.isDigit at hword
    simp only [Bool.or_eq_true, Bool.and_eq_true, decide_eq_true_eq, beq_iff_eq,
      UInt32.le_iff_toNat_le, ge_iff_le] at hword
    rcases hword with hword | rfl
    · omega
    · exact absurd h (by decide)
  · by_contra hspace
    simp only [isSpace, Bool.not_eq_false, Bool.or_eq_true, beq_iff_eq] at hspace
    rcases hspace with ((((rfl | rfl) | rfl) | rfl) | rfl) | rfl <;> exact absurd h (by decide)

/-! ### Characters of the same kind -/

lemma SameKind.isWord_eq (h : SameKind c d) : isWord c = isWord d := by
  rcases h with h | ⟨hc, hd⟩ | ⟨hc, hd⟩
  · rw [← isWord_toLower, h, isWord_toLower]
  · rw [CharClass.isWord_of_isSpace hc, CharClass.isWord_of_isSpace hd]
  · rw [(isOther_iff.mp hc).1, (isOther_iff.mp hd).1]

lemma SameKind.isSpace_eq (h : SameKind c d) : isSpace c = isSpace d := by
  have key : ∀ {c d : Char}, c.toLower = d.toLower → isSpace c = true → isSpace d = true := by
    intro c d hcd hc
    rwa [← eq_of_toLower_eq hcd (CharClass.isWord_of_isSpace hc)]
  rcases h with h | ⟨hc, hd⟩ | ⟨hc, hd⟩
  · exact Bool.eq_iff_iff.mpr ⟨key h, key h.symm⟩
  · rw [hc, hd]
  · rw [(isOther_iff.mp hc).2.1, (isOther_iff.mp hd).2.1]

/-- A mark is alone of its kind. -/
lemma SameKind.eq_mark (ha : a ∈ marks) (h : SameKind a d) : a = d := by
  rcases h with h | ⟨hspace, -⟩ | ⟨hother, -⟩
  · exact eq_of_toLower_eq h (of_mem_marks ha).1
  · rw [(of_mem_marks ha).2.1] at hspace
    cases hspace
  · exact absurd ha (isOther_iff.mp hother).2.2

lemma SameKind.symm (h : SameKind c d) : SameKind d c :=
  h.imp Eq.symm (Or.imp And.symm And.symm)

/-- A word character has the kind of its lower case only. -/
lemma SameKind.toLower_eq (hc : isWord c = true) (h : SameKind c d) : c.toLower = d.toLower := by
  rcases h with h | ⟨hspace, -⟩ | ⟨hother, -⟩
  · exact h
  · rw [CharClass.isWord_of_isSpace hspace] at hc
    cases hc
  · rw [(isOther_iff.mp hother).1] at hc
    cases hc

theorem CharClass.contains_eq_of_takesKinds (hs : s.takesKinds = true) (h : SameKind c d) :
    s.contains c = s.contains d := by
  cases s with
  | exactly a =>
    -- a letter is compared by its lower case, which the characters of its kind share
    have key : ∀ {c d : Char}, SameKind c d → a.toLower = c.toLower → a.toLower = d.toLower := by
      intro c d hcd hac
      rcases Bool.or_eq_true _ _ ▸ hs with ha | ha
      · have hc : isWord c = true := by rw [← isWord_toLower, ← hac, isWord_toLower, ha]
        exact hac.trans (hcd.toLower_eq hc)
      · have ha := List.contains_iff_mem.mp ha
        obtain rfl := eq_of_toLower_eq hac (of_mem_marks ha).1
        rw [hcd.eq_mark ha]
    rw [contains, contains, Bool.eq_iff_iff, beq_iff_eq, beq_iff_eq]
    exact ⟨key h, key h.symm⟩
  | space => exact h.isSpace_eq
  | word => exact h.isWord_eq
  | any => rfl
  | butNot a =>
    have ha : a ∈ marks := List.contains_iff_mem.mp hs
    have key : ∀ {c d : Char}, SameKind c d → a = c → a = d := by
      rintro c d hcd rfl
      exact hcd.eq_mark ha
    rw [contains, contains, Bool.eq_iff_iff, bne_iff_ne, bne_iff_ne]
    exact not_congr ⟨key h, key h.symm⟩

end

/-! ### Texts of the same kinds -/

namespace Rule

variable {r : Rule}

lemma all_takesKinds_classes (hr : r ∈ catalog) :
    r.pattern.classes.all CharClass.takesKinds = true := by
  revert r
  decide +kernel

lemma alike_of_sameKind (hr : r ∈ catalog) {c d : Char} (h : SameKind c d) :
    Pattern.Alike r.pattern.classes c d :=
  ⟨h.isWord_eq, fun s hs =>
    s.contains_eq_of_takesKinds (List.all_eq_true.mp (all_takesKinds_classes hr) s hs) h⟩

/-- A rule of the catalog reports the same stretches of texts of the same kinds. -/
theorem findMatches_eq_of_sameKind (hr : r ∈ catalog) {t u : String}
    (h : List.Forall₂ SameKind t.toList u.toList) : r.findMatches t = r.findMatches u := by
  have halike := h.imp fun _ _ => alike_of_sameKind hr
  have hspans := (Pattern.correspondence_of_alike halike).spans_eq
    (fun _ => greedy_pattern hr) (consumes_pattern hr)
  have hmove : Span.move id = id := rfl
  rw [hmove, List.map_id] at hspans
  rw [findMatches, findMatches, hspans]

end Rule

/-- **Only kinds matter.**  Two texts whose characters are of the same kinds, place by place, have
the same findings, with the same offsets and lengths, and the same summary.  Beyond ASCII every
character is other, whatever it looks like. -/
theorem analysis_eq_of_sameKind :
    (∀ t u : String, List.Forall₂ SameKind t.toList u.toList →
      analyze t = analyze u ∧ summarize t = summarize u) ∧
    ∀ c : Char, 128 ≤ c.toNat → isOther c = true := by
  refine ⟨fun t u h => ⟨?_, ?_⟩, fun c hc => isOther_of_not_ascii hc⟩
  · exact List.flatMap_congr fun r hr => Rule.findMatches_eq_of_sameKind hr h
  · refine congrArg (List.map Rule.message) (List.filter_congr fun r hr => ?_)
    rw [r.firesOn_eq, r.firesOn_eq, Rule.findMatches_eq_of_sameKind hr h]

/-- The Kelvin sign is no letter, and a tab is as good as a line feed. -/
theorem analysis_eq_with_kelvin_sign :
    let t := "SELECT\t* -- \u212a"
    let u := "select\n* -- é"
    List.Forall₂ SameKind t.toList u.toList ∧ 128 ≤ '\u212a'.toNat ∧
      analyze t = analyze u ∧ summarize t = summarize u ∧ isOther '\u212a' = true := by
  intro t u
  have h : List.Forall₂ SameKind t.toList u.toList := by decide
  have hsign : 128 ≤ '\u212a'.toNat := by decide
  obtain ⟨hanalyze, hsummarize⟩ := analysis_eq_of_sameKind.1 t u h
  exact ⟨h, hsign, hanalyze, hsummarize, analysis_eq_of_sameKind.2 _ hsign⟩

end QueryLint
