/-!
# Character classes

The classes that rule patterns are built from.  All of them look at ASCII only: a character outside
ASCII is neither a space nor part of a word, and letters are compared up to ASCII case, so that
`ſ` or the Kelvin sign never stand for an ASCII letter.
-/

namespace QueryLint

/-- The six ASCII whitespace characters. -/
def isSpace (c : Char) : Bool :=
  c == ' ' || c == '\t' || c == '\n' || c == '\r' || c == '\x0b' || c == '\x0c'

/-- Letters, digits and the underscore of ASCII: the characters of an identifier. -/
def isWord (c : Char) : Bool :=
  c.isAlphanum || c == '_'

/-- A set of characters that one pattern step may read. -/
inductive CharClass where
  /-- The character itself, letters up to ASCII case. -/
  | exactly (c : Char)
  /-- ASCII whitespace. -/
  | space
  /-- ASCII identifier characters. -/
  | word
  /-- Every character, line breaks included. -/
  | any
  /-- Every character but the given one. -/
  | butNot (c : Char)
deriving DecidableEq, Repr

namespace CharClass

/-- Membership of a character in a class. -/
def contains : CharClass → Char → Bool
  | exactly a, c => a.toLower == c.toLower
  | space, c => isSpace c
  | word, c => isWord c
  | any, _ => true
  | butNot a, c => a != c

/-- Characters that have a meaning of their own in a written pattern. -/
def isSpecial (c : Char) : Bool :=
  c == '*' || c == '(' || c == ')'

/-- The class as it is written in a pattern. -/
def source : CharClass → String
  | exactly c => if isSpecial c then "\\" ++ c.toString else c.toString
  | space => "\\s"
  | word => "\\w"
  | any => "."
  | butNot c => "[^" ++ c.toString ++ "]"

end CharClass

end QueryLint
