import QueryLint.Pattern.Basic

/-!
# What a pattern matches

`Pattern.Matches t p i j` says that `p` describes the stretch of `t` from offset `i` to offset `j`.
It is stated without any order of trial: which of several stretches a search reports is the matter
of `Pattern.Search`.  A word boundary is judged in the whole text `t`.
-/

namespace QueryLint

/-- Whether the character at an offset is a word character; outside the text there is none. -/
def wordAt (t : List Char) (i : Nat) : Bool :=
  t[i]?.any isWord

/-- An offset is a word boundary if exactly one of its two neighbours is a word character. -/
def AtBoundary (t : List Char) (i : Nat) : Prop :=
  (0 < i ∧ wordAt t (i - 1)) ↔ ¬ wordAt t i

instance (t : List Char) (i : Nat) : Decidable (AtBoundary t i) :=
  inferInstanceAs (Decidable (_ ↔ _))

/-- The pattern describes the stretch of the text between the two offsets. -/
inductive Pattern.Matches (t : List Char) : Pattern → Nat → Nat → Prop where
  | empty {i : Nat} : i ≤ t.length → Matches t .empty i i
  | one {s : CharClass} {i : Nat} {c : Char} :
      t[i]? = some c → s.contains c → Matches t (.one s) i (i + 1)
  | boundary {i : Nat} : i ≤ t.length → AtBoundary t i → Matches t .boundary i i
  | manyNil {s : CharClass} {i : Nat} : i ≤ t.length → Matches t (.many s) i i
  | manyCons {s : CharClass} {i j : Nat} {c : Char} :
      t[i]? = some c → s.contains c → Matches t (.many s) (i + 1) j → Matches t (.many s) i j
  | many1 {s : CharClass} {i j : Nat} {c : Char} :
      t[i]? = some c → s.contains c → Matches t (.many s) (i + 1) j → Matches t (.many1 s) i j
  | seq {p q : Pattern} {i j k : Nat} :
      Matches t p i j → Matches t q j k → Matches t (.seq p q) i k
  | altLeft {p q : Pattern} {i j : Nat} : Matches t p i j → Matches t (.alt p q) i j
  | altRight {p q : Pattern} {i j : Nat} : Matches t q i j → Matches t (.alt p q) i j
  | optNone {p : Pattern} {i : Nat} : i ≤ t.length → Matches t (.opt p) i i
  | optSome {p : Pattern} {i j : Nat} : Matches t p i j → Matches t (.opt p) i j

end QueryLint
