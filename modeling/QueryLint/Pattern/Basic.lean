import QueryLint.Text.CharClass

/-!
# Patterns

A pattern describes a stretch of text: single characters, runs of one class, word boundaries,
sequences, alternatives and optional parts.  Repetition is only over one class, which is what keeps
searching linear (`Pattern.Search`).  `Pattern.source` writes a pattern in the usual notation of
regular expressions.
-/

namespace QueryLint

/-- A description of a stretch of text. -/
inductive Pattern where
  /-- The empty stretch. -/
  | empty
  /-- One character of the class. -/
  | one (s : CharClass)
  /-- The empty stretch between a word character and something else. -/
  | boundary
  /-- A run of the class, possibly empty. -/
  | many (s : CharClass)
  /-- A run of the class with at least one character. -/
  | many1 (s : CharClass)
  /-- One pattern, then another. -/
  | seq (p q : Pattern)
  /-- One pattern or another, the first preferred. -/
  | alt (p q : Pattern)
  /-- The pattern or nothing, the pattern preferred. -/
  | opt (p : Pattern)
deriving DecidableEq, Repr

namespace Pattern

/-- Patterns one after another. -/
def concat (ps : List Pattern) : Pattern :=
  ps.foldr seq empty

/-- The characters of a text one after another, letters up to ASCII case. -/
def text (s : String) : Pattern :=
  concat (s.toList.map fun c => one (.exactly c))

/-- A whole word: the text with a word boundary on both sides. -/
def wholeWord (s : String) : Pattern :=
  concat [boundary, text s, boundary]

/-- The pattern in the notation of regular expressions. -/
def source : Pattern → String
  | empty => ""
  | one s => s.source
  | boundary => "\\b"
  | many s => s.source ++ "*"
  | many1 s => s.source ++ "+"
  | seq p q => p.source ++ q.source
  | alt p q => p.source ++ "|" ++ q.source
  | opt p => "(?:" ++ p.source ++ ")?"

end Pattern

end QueryLint
