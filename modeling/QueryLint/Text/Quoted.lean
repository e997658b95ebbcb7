import QueryLint.Text.CodePoint
import QueryLint.Text.Unprintable

/-!
# Quoted literals

A text as a literal on one line.  It stands in single quotes, or in double quotes if it holds a
single quote and no double one.  The quote in use and the backslash are escaped by a backslash, line
feed, carriage return and tab by their letters, and every other unprintable character by its code
point in two, four or eight hexadecimal digits; so is half of a surrogate pair that stands alone.
-/

namespace QueryLint

namespace Quoted

/-- The quote that a text stands in. -/
def quoteFor (ps : List CodePoint) : Char :=
  if ps.contains (.char '\'') && !ps.contains (.char '"') then '"' else '\''

/-- The last `width` hexadecimal digits of a number, most significant first. -/
def hexDigits (width n : Nat) : List Char :=
  (List.range width).reverse.map fun i => Nat.digitChar (n / Nat.pow 16 i % 16)

/-- A character by its code point. -/
def escapeCode (n : Nat) : List Char :=
  if n < 0x100 then '\\' :: 'x' :: hexDigits 2 n
  else if n < 0x10000 then '\\' :: 'u' :: hexDigits 4 n
  else '\\' :: 'U' :: hexDigits 8 n

/-- One character of a literal. -/
def escapeChar (quote c : Char) : List Char :=
  if c == quote || c == '\\' then ['\\', c]
  else if c == '\n' then ['\\', 'n']
  else if c == '\r' then ['\\', 'r']
  else if c == '\t' then ['\\', 't']
  else if isUnprintable c then escapeCode c.toNat
  else [c]

/-- One code point of a literal. -/
def escapePoint (quote : Char) : CodePoint → List Char
  | .char c => escapeChar quote c
  | .half n _ => escapeCode n

/-- The characters of the literal of a text. -/
def encode (ps : List CodePoint) : List Char :=
  let quote := quoteFor ps
  quote :: ps.flatMap (escapePoint quote) ++ [quote]

end Quoted

/-- The literal of a decoded text. -/
def quotedPoints (ps : List CodePoint) : String :=
  String.ofList (Quoted.encode ps)

/-- The literal of a text. -/
def quoted (s : String) : String :=
  quotedPoints (CodePoint.ofChars s.toList)

end QueryLint
