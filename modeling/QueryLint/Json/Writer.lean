import QueryLint.Json.Basic
import QueryLint.Number.Shortest
import QueryLint.Text.Quoted

/-!
# Writing JSON

The text of a value on one line.  Quotes, backslashes and control characters are escaped, everything
else is written as it is.

Not every value can be sent: it must not nest too deeply, the format has no infinite numbers, and
half of a surrogate pair has no bytes.  `Json.writeError?` tells what is in the way.
-/

namespace QueryLint

namespace Json

/-! ### The text of a value -/

/-- The code points of an ASCII text. -/
def ascii (s : String) : List Nat :=
  s.toList.map Char.toNat

/-- One code point of a quoted text. -/
def escapePoint (n : Nat) : List Nat :=
  if n = '"'.toNat then ascii "\\\""
  else if n = '\\'.toNat then ascii "\\\\"
  else if n = 0x08 then ascii "\\b"
  else if n = 0x0C then ascii "\\f"
  else if n = 0x0A then ascii "\\n"
  else if n = 0x0D then ascii "\\r"
  else if n = 0x09 then ascii "\\t"
  else if n < 0x20 then ascii "\\u" ++ (Quoted.hexDigits 4 n).map Char.toNat
  else [n]

/-- A text in quotes. -/
def quotePoints (t : Text) : List Nat :=
  ascii "\"" ++ t.points.flatMap escapePoint ++ ascii "\""

/-- A number with a fraction or an exponent, by the shortest digits of the nearest double. -/
def writeDecimal : Decimal → String
  | .nan => "NaN"
  | .infinity negative => if negative then "-Infinity" else "Infinity"
  | d => Layout.plain.render d.toFloat

mutual

/-- The code points of the text of a value. -/
def points : Json → List Nat
  | null => ascii "null"
  | bool b => ascii (if b then "true" else "false")
  | int n => ascii (toString n)
  | decimal d => ascii (writeDecimal d)
  | str t => quotePoints t
  | arr items => ascii "[" ++ (ascii ",").intercalate (itemPoints items) ++ ascii "]"
  | obj fields => ascii "\x7b" ++ (ascii ",").intercalate (fieldPoints fields) ++ ascii "\x7d"

/-- The texts of the items of an array. -/
def itemPoints : List Json → List (List Nat)
  | [] => []
  | j :: rest => j.points :: itemPoints rest

/-- The texts of the fields of an object. -/
def fieldPoints : List (Text × Json) → List (List Nat)
  | [] => []
  | (key, j) :: rest => (quotePoints key ++ ascii ":" ++ j.points) :: fieldPoints rest

end

/-- The text of a value; a half that stands alone is written as the replacement character. -/
def write (j : Json) : String :=
  String.ofList (j.points.map fun n =>
    if CodePoint.isHalf n then Text.replacement else Char.ofNat n)

/-! ### Values that cannot be sent -/

/-- The most levels of arrays and objects in each other that are written. -/
def maxWrittenDepth : Nat := 966

/-- Why a value cannot be sent. -/
inductive WriteError where
  /-- The value nests too deeply. -/
  | tooDeep
  /-- A number is infinite or not a number. -/
  | outOfRange
  /-- The text has halves of surrogate pairs, the first of them the given code point, from one place
  to another. -/
  | loneHalves (half first last : Nat)
deriving DecidableEq, Repr

namespace WriteError

/-- What is in the way, in words. -/
def message : WriteError → String
  | tooDeep => "maximum recursion depth exceeded while encoding a JSON object"
  | outOfRange => "Out of range float values are not JSON compliant"
  | loneHalves half first last =>
    let place := if first = last then
        " '\\u" ++ String.ofList (Quoted.hexDigits 4 half) ++ "' in position " ++ toString first
      else "s in position " ++ toString first ++ "-" ++ toString last
    "'utf-8' codec can't encode character" ++ place ++ ": surrogates not allowed"

end WriteError

mutual

/-- The first thing in a value that has no text, if the value may have the given number of levels:
a level too many, or a number that is infinite or not a number. -/
def unwritten? : Nat → Json → Option WriteError
  | _, decimal d =>
    if (Binary.ofBits? d.toFloat.toBits).isNone then some .outOfRange else none
  | 0, arr _ => some .tooDeep
  | 0, obj _ => some .tooDeep
  | levels + 1, arr items => unwrittenItem? levels items
  | levels + 1, obj fields => unwrittenField? levels fields
  | _, _ => none

/-- The first such thing in several values. -/
def unwrittenItem? (levels : Nat) : List Json → Option WriteError
  | [] => none
  | j :: rest => unwritten? levels j <|> unwrittenItem? levels rest

/-- The first such thing in several fields. -/
def unwrittenField? (levels : Nat) : List (Text × Json) → Option WriteError
  | [] => none
  | (_, j) :: rest => unwritten? levels j <|> unwrittenField? levels rest

end

/-- The first run of halves among code points. -/
def loneHalves? (ps : List Nat) : Option WriteError :=
  let before := ps.takeWhile fun n => !CodePoint.isHalf n
  match (ps.drop before.length).takeWhile CodePoint.isHalf with
  | [] => none
  | half :: rest => some (.loneHalves half before.length (before.length + rest.length))

/-- What keeps a value from being sent; the whole text is written before its halves are met. -/
def writeError? (j : Json) : Option WriteError :=
  unwritten? maxWrittenDepth j <|> loneHalves? j.points

end Json

end QueryLint
