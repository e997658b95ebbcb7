import Mathlib.Tactic.Common
import QueryLint.Failure

/-!
# What clients are told about failures

A message that holds a stack trace or the name of a source file `Reveals` the inside of the program
and is replaced as a whole; a long one is cut and three dots are put behind the cut.  Neither step
can bring back what was kept from the client: the dots complete no forbidden part, since every such
part ends in a letter, and so a part of the cut message was a part of the whole one
(`not_reveals_cut`).  A message that has gone through this once goes through it unchanged
(`presents_sanitize`).
-/

namespace QueryLint

/-! ### Parts of a text -/

section Parts

variable {part cs ds : List Char} {c : Char}

lemma occursInChars_iff : occursInChars part cs = true ↔ part <:+: cs := by
  induction cs with
  | nil => simp [occursInChars]
  | cons c cs ih => simp [occursInChars, ih, List.infix_cons_iff]

theorem hasPart_iff {text part : String} :
    hasPart text part = true ↔ part.toList <:+: text.toList :=
  occursInChars_iff

/-- A part that ends with a character that does not occur behind a cut lies before the cut. -/
lemma infix_left_of_infix_append (h : part <:+: cs ++ ds) (hlast : part.getLast? = some c)
    (hc : c ∉ ds) : part <:+: cs := by
  rcases List.infix_append_iff_ne_nil.mp h with h | h | ⟨l, r, -, hr, rfl, -, hds⟩
  · exact h
  · exact absurd (h.subset (List.mem_of_getLast? hlast)) hc
  · -- the cut goes through the part, so that its last character lies behind the cut
    have hend : r.getLast? = some c := by
      simpa [List.getLast?_append, List.getLast?_eq_some_getLast hr] using hlast
    exact absurd (hds.subset (List.mem_of_getLast? hend)) hc

/-- A part that begins with a character that does not occur before a cut lies behind the cut. -/
lemma infix_right_of_infix_append (h : part <:+: cs ++ ds) (hhead : part.head? = some c)
    (hc : c ∉ cs) : part <:+: ds := by
  rw [← List.reverse_infix, List.reverse_append] at h
  rw [← List.reverse_infix]
  refine infix_left_of_infix_append h ?_ (by simpa using hc)
  rwa [List.getLast?_reverse]

end Parts

namespace Failure

variable {m : String} {n : Nat}

/-! ### Messages that reveal the inside of the program -/

/-- A text holds the beginning of a stack trace, or both marks of a source file. -/
def Reveals (m : String) : Prop :=
  "Traceback".toList <:+: m.toList ∨
    "File".toList <:+: m.toList ∧ ".py".toList <:+: m.toList

theorem isRevealing_iff : isRevealing m = true ↔ Reveals m := by
  simp [isRevealing, Reveals, hasPart_iff]

instance (m : String) : Decidable (Reveals m) :=
  decidable_of_iff _ isRevealing_iff

lemma not_reveals_concealed : ¬ Reveals concealed := by
  -- the characters of the literals are written out; reading them off its bytes takes far longer
  have hconcealed : concealed.toList = _ := String.toList_ofList
  have htrace : "Traceback".toList = _ := String.toList_ofList
  have hfile : "File".toList = _ := String.toList_ofList
  have hending : ".py".toList = _ := String.toList_ofList
  rw [Reveals, hconcealed, htrace, hfile, hending]
  decide

lemma length_concealed : concealed.length = 66 := by
  have hconcealed : concealed.toList = _ := String.toList_ofList
  rw [← String.length_toList, hconcealed]
  rfl

/-- A message that is cut reveals nothing that the whole message does not. -/
theorem not_reveals_cut (h : ¬ Reveals m) (n : Nat) : ¬ Reveals (firstChars n m ++ "...") := by
  intro hcut
  have hbefore : ∀ {part : List Char} {c : Char}, part.getLast? = some c → c ∉ "...".toList →
      part <:+: (firstChars n m ++ "...").toList → part <:+: m.toList := by
    intro part c hlast hc hpart
    rw [String.toList_append, firstChars, String.toList_ofList] at hpart
    have htake := infix_left_of_infix_append hpart hlast hc
    exact htake.trans (List.take_prefix n m.toList).isInfix
  apply h
  rcases hcut with htrace | ⟨hfile, hending⟩
  · exact .inl (hbefore rfl (by decide) htrace)
  · exact .inr ⟨hbefore rfl (by decide) hfile, hbefore rfl (by decide) hending⟩

/-! ### The three ways of a message -/

lemma sanitize_of_reveals (h : Reveals m) : sanitize m = concealed := by
  rw [sanitize, if_pos (isRevealing_iff.mpr h)]

lemma sanitize_of_long (h : ¬ Reveals m) (hlong : 200 < m.length) :
    sanitize m = firstChars 200 m ++ "..." := by
  rw [sanitize, if_neg (isRevealing_iff.not.mpr h)]
  exact if_pos hlong

lemma sanitize_of_short (h : ¬ Reveals m) (hshort : m.length ≤ 200) : sanitize m = m := by
  rw [sanitize, if_neg (isRevealing_iff.not.mpr h)]
  exact if_neg (Nat.not_lt.mpr hshort)

lemma length_cut (hlong : n ≤ m.length) : (firstChars n m ++ "...").length = n + 3 := by
  have hcs : n ≤ m.toList.length := by rwa [String.length_toList]
  rw [← String.length_toList, String.toList_append, firstChars, String.toList_ofList,
    List.length_append, List.length_take, Nat.min_eq_left hcs]
  rfl

/-- Cutting a message that was cut at the same place gives the same text. -/
lemma firstChars_cut (hlong : n ≤ m.length) :
    firstChars n (firstChars n m ++ "...") = firstChars n m := by
  have hcs : n ≤ m.toList.length := by rwa [String.length_toList]
  rw [firstChars, String.toList_append, firstChars, String.toList_ofList,
    List.take_append_of_le_length (by simp [hcs]), List.take_take, Nat.min_self]

/-- How a text has to look that a client is shown in place of a message. -/
structure Presents (m shown : String) : Prop where
  length_le : shown.length ≤ 203
  not_reveals : ¬ Reveals shown
  /-- Shown again, it is the same. -/
  settled : sanitize shown = shown
  /-- A short message that reveals nothing is shown as it is. -/
  faithful : m.length ≤ 200 → ¬ Reveals m → shown = m

theorem presents_sanitize (m : String) : Presents m (sanitize m) := by
  by_cases hreveals : Reveals m
  · rw [sanitize_of_reveals hreveals]
    have hlength := length_concealed
    exact {
      length_le := by omega
      not_reveals := not_reveals_concealed
      settled := sanitize_of_short not_reveals_concealed (by omega)
      faithful := fun _ h => absurd hreveals h }
  · by_cases hlong : 200 < m.length
    · rw [sanitize_of_long hreveals hlong]
      have hlength := length_cut (m := m) (n := 200) (by omega)
      have hcut := not_reveals_cut hreveals 200
      refine ⟨by omega, hcut, ?_, fun hshort => by omega⟩
      -- the cut text is too long itself, and it is cut where it was cut before
      rw [sanitize_of_long hcut (by omega), firstChars_cut (by omega)]
    · have hshort : m.length ≤ 200 := by omega
      have hsame := sanitize_of_short hreveals hshort
      rw [hsame]
      exact ⟨by omega, hreveals, hsame, fun _ _ => rfl⟩

/-- **Shown messages are short, sealed and settled.**  What is shown in place of a message has at
most 203 characters, holds neither the beginning of a stack trace nor both marks of a source file,
and is not changed by being treated once more; a message of at most 200 characters that holds
nothing of the kind is shown as it is.  So is it with the answer to every failure that is not a
refusal already, in whatever context it is handled. -/
theorem shown_messages_sealed_and_settled :
    (∀ m, Presents m (sanitize m)) ∧
    ∀ (f : Failure) (context : Option String), (∀ r, f ≠ .refused r) →
      Presents f.message (f.handle context).1.detail := by
  refine ⟨presents_sanitize, ?_⟩
  intro f context hf
  cases f with
  | refused r => exact absurd rfl (hf r)
  | documentNotOpen _ | noActiveDocument _ | analysis _ | unexpected _ =>
    exact presents_sanitize _

/-- A message that is cut within what would be the ending of a source file. -/
theorem message_cut_within_ending_presented :
    let m := "File " ++ String.ofList (List.replicate 193 'a') ++ ".plain"
    (∀ r, Failure.unexpected m ≠ .refused r) ∧
      Presents m ((Failure.unexpected m).handle (some "analyze endpoint")).1.detail := by
  intro m
  have hkind : ∀ r, Failure.unexpected m ≠ .refused r := by
    intro r h
    cases h
  exact ⟨hkind, shown_messages_sealed_and_settled.2 (.unexpected m) _ hkind⟩

end Failure

end QueryLint
