import QueryLint.Json.Basic
import QueryLint.Number.IntegerText

/-!
# Reading JSON

`Json.read` accepts one JSON value with blanks around it.  Of a key that an object repeats the last
value counts.  Besides the standard grammar the numbers `NaN`, `Infinity` and `-Infinity` are read.
Values that nest more levels than allowed and integers of more than `maxIntegerDigits` digits are
refused at the place where the reader meets them, whatever stands behind.

The readers of parts return the value and the rest of the text.  Values nest, so the reader of a
value takes a bound on the number of steps.  A bracket is read in two steps and everything else in
no more steps than it has characters, so that twice the length of the text is always enough.
-/

namespace QueryLint

namespace Json

/-- Why a text is not read. -/
inductive ReadError where
  /-- The text is not JSON. -/
  | malformed
  /-- Its values nest too deeply. -/
  | tooDeep
  /-- An integer has too many digits. -/
  | tooManyDigits
deriving DecidableEq, Repr

/-- The most levels of arrays and objects in each other. -/
def maxDepth : Nat := 968

/-- How many levels must be left below a mistake in the form of an array, an object or a text for it
to be told as such. -/
def reportLevels : Nat := 3

/-- A mistake in the form of a value, with the number of levels that are left below it. -/
def formError (levels : Nat) : ReadError :=
  if levels < reportLevels then .tooDeep else .malformed

/-! ### Numbers -/

/-- An exponent with its mark and sign, or nothing; a mark without digits is left alone. -/
def readExponent (ps : List CodePoint) : Option Int × List CodePoint :=
  match ps with
  | .char mark :: rest =>
    if mark == 'e' || mark == 'E' then
      let (negative, rest') := match rest with
        | .char '-' :: r => (true, r)
        | .char '+' :: r => (false, r)
        | r => (false, r)
      let digits := CodePoint.digits rest'
      if digits.isEmpty then (none, ps)
      else
        let n : Int := digitsValue digits
        (some (if negative then -n else n), CodePoint.behindDigits rest')
    else (none, ps)
  | _ => (none, ps)

/-- The digits behind a point, or nothing; a point without digits is left alone. -/
def readFraction (ps : List CodePoint) : List Char × List CodePoint :=
  match ps with
  | .char '.' :: rest =>
    let digits := CodePoint.digits rest
    if digits.isEmpty then ([], ps) else (digits, CodePoint.behindDigits rest)
  | _ => ([], ps)

/-- A number after its sign.  The integer part is a single zero or does not begin with one; a number
with a fraction or an exponent is not an integer, whatever its value. -/
def readMagnitude (negative : Bool) (ps : List CodePoint) :
    Except ReadError (Json × List CodePoint) :=
  let (whole, rest) := match ps with
    | .char '0' :: r => (['0'], r)
    | _ => (CodePoint.digits ps, CodePoint.behindDigits ps)
  if whole.isEmpty then .error .malformed
  else
    let (fraction, rest) := readFraction rest
    let (exponent, rest) := readExponent rest
    if fraction.isEmpty && exponent.isNone then
      if maxIntegerDigits < whole.length then .error .tooManyDigits
      else
        let n : Int := digitsValue whole
        .ok (int (if negative then -n else n), rest)
    else
      let places := exponent.getD 0 - fraction.length
      .ok (decimal (.finite negative (digitsValue (whole ++ fraction)) places), rest)

/-! ### Texts -/

/-- The value of a hexadecimal digit. -/
def hexValue? (c : Char) : Option Nat :=
  if c.isDigit then some (c.toNat - '0'.toNat)
  else if 'a' ≤ c ∧ c ≤ 'f' then some (c.toNat - 'a'.toNat + 10)
  else if 'A' ≤ c ∧ c ≤ 'F' then some (c.toNat - 'A'.toNat + 10)
  else none

/-- Four hexadecimal digits. -/
def hex4? : List CodePoint → Option Nat
  | .char a :: .char b :: .char c :: .char d :: _ => do
    let a ← hexValue? a
    let b ← hexValue? b
    let c ← hexValue? c
    let d ← hexValue? d
    return ((a * 16 + b) * 16 + c) * 16 + d
  | _ => none

/-- The other half of a pair, behind an escape of the first. -/
def secondHalf? (ps : List CodePoint) : Option Nat :=
  match ps with
  | .char '\\' :: .char 'u' :: rest => (hex4? rest).filter fun n => 0xDC00 ≤ n && n < 0xE000
  | _ => none

/-- The code point that an escape stands for and how many characters the escape has, given the text
behind the backslash.  A character beyond `U+FFFF` is a pair of escapes. -/
def readEscape? (ps : List CodePoint) : Option (Nat × Nat) :=
  match ps with
  | .char 'u' :: rest =>
    (hex4? rest).map fun n =>
      if 0xD800 ≤ n && n < 0xDC00 then
        match secondHalf? (rest.drop 4) with
        | some m => (0x10000 + (n - 0xD800) * 0x400 + (m - 0xDC00), 11)
        | none => (n, 5)
      else (n, 5)
  | .char c :: _ =>
    if c == '"' || c == '\\' || c == '/' then some (c.toNat, 1)
    else if c == 'b' then some (0x08, 1)
    else if c == 'f' then some (0x0C, 1)
    else if c == 'n' then some (0x0A, 1)
    else if c == 'r' then some (0x0D, 1)
    else if c == 't' then some (0x09, 1)
    else none
  | _ => none

/-- A text in the making: how many characters it has, the characters and the halves, last first. -/
structure Draft where
  size : Nat := 0
  chars : List Char := []
  halves : List (Nat × Nat) := []

namespace Draft

/-- One code point more. -/
def push (d : Draft) (p : CodePoint) : Draft :=
  match p with
  | .char c => { d with size := d.size + 1, chars := c :: d.chars }
  | .half n _ =>
    { size := d.size + 1
      chars := Text.replacement :: d.chars
      halves := (d.size, n) :: d.halves }

/-- The finished text. -/
def finish (d : Draft) : Text :=
  ⟨String.ofList d.chars.reverse, d.halves.reverse⟩

end Draft

/-- The code points of a text up to its closing quote, if they are well formed.  Control characters
must be escaped. -/
def readChars? (draft : Draft) (ps : List CodePoint) : Option (Text × List CodePoint) :=
  match ps with
  | [] => none
  | .half n h :: rest => readChars? (draft.push (.half n h)) rest
  | .char c :: rest =>
    if c == '"' then some (draft.finish, rest)
    else if c == '\\' then
      match readEscape? rest with
      | none => none
      | some (n, size) => readChars? (draft.push (.ofNat n)) (rest.drop size)
    else if c.toNat < 0x20 then none
    else readChars? (draft.push (.char c)) rest
termination_by ps.length
decreasing_by all_goals simp; try omega

/-! ### Values -/

/-- Whitespace between the parts of a value. -/
def isWhitespace : CodePoint → Bool
  | .char c => c == ' ' || c == '\t' || c == '\n' || c == '\r'
  | .half .. => false

/-- The rest of the text behind blanks. -/
def skipBlanks (ps : List CodePoint) : List CodePoint :=
  ps.dropWhile isWhitespace

/-- The rest of the text behind a given beginning. -/
def skipWord? (word : String) (ps : List CodePoint) : Option (List CodePoint) :=
  if (CodePoint.ofChars word.toList).isPrefixOf ps then some (ps.drop word.length) else none

/-- A number, a word or a text: the values without parts. -/
def readScalar (levels : Nat) (ps : List CodePoint) : Except ReadError (Json × List CodePoint) :=
  match ps with
  | .char '"' :: rest =>
    match readChars? {} rest with
    | none => .error (formError levels)
    | some (t, r) => .ok (str t, r)
  | .char '-' :: rest =>
    match skipWord? "Infinity" rest with
    | some r => .ok (decimal (.infinity true), r)
    | none => readMagnitude true rest
  | _ =>
    let words : List (String × Json) :=
      [("null", null), ("true", bool true), ("false", bool false), ("NaN", decimal .nan),
        ("Infinity", decimal (.infinity false))]
    match words.findSome? fun (w, j) => (skipWord? w ps).map fun r => (j, r) with
    | some found => .ok found
    | none => readMagnitude false ps

mutual

/-- A value in at most the given number of steps, of at most the given number of levels. -/
def readValue : Nat → Nat → List CodePoint → Except ReadError (Json × List CodePoint)
  | 0, _, _ => .error .malformed
  | fuel + 1, levels, ps =>
    match ps, levels with
    | .char '[' :: _, 0 => .error .tooDeep
    | .char '\x7b' :: _, 0 => .error .tooDeep
    | .char '[' :: rest, levels + 1 =>
      match skipBlanks rest with
      | .char ']' :: rest' => .ok (arr [], rest')
      | rest' => (readItems fuel levels [] rest').map fun (items, r) => (arr items, r)
    | .char '\x7b' :: rest, levels + 1 =>
      match skipBlanks rest with
      | .char '\x7d' :: rest' => .ok (obj [], rest')
      | rest' => (readFields fuel levels [] rest').map fun (fields, r) => (obj fields, r)
    | _, _ => readScalar levels ps

/-- The items of an array up to its closing bracket, the items read so far in reverse. -/
def readItems :
    Nat → Nat → List Json → List CodePoint → Except ReadError (List Json × List CodePoint)
  | 0, _, _, _ => .error .malformed
  | fuel + 1, levels, acc, ps =>
    match readValue fuel levels ps with
    | .error e => .error e
    | .ok (item, rest) =>
      match skipBlanks rest with
      | .char ']' :: rest' => .ok ((item :: acc).reverse, rest')
      | .char ',' :: rest' => readItems fuel levels (item :: acc) (skipBlanks rest')
      | _ => .error (formError levels)

/-- The fields of an object up to its closing brace. -/
def readFields :
    Nat → Nat → Fields → List CodePoint → Except ReadError (Fields × List CodePoint)
  | 0, _, _, _ => .error .malformed
  | fuel + 1, levels, acc, ps =>
    match ps with
    | .char '"' :: rest =>
      match readChars? {} rest with
      | none => .error (formError levels)
      | some (key, rest) =>
        match skipBlanks rest with
        | .char ':' :: rest =>
          match readValue fuel levels (skipBlanks rest) with
          | .error e => .error e
          | .ok (value, rest) =>
            match skipBlanks rest with
            | .char '\x7d' :: rest => .ok (putField acc key value, rest)
            | .char ',' :: rest =>
              readFields fuel levels (putField acc key value) (skipBlanks rest)
            | _ => .error (formError levels)
        | _ => .error (formError levels)
    | _ => .error (formError levels)

end

/-- The value that a text holds, of at most the given number of levels. -/
def readWithin (levels : Nat) (ps : List CodePoint) : Except ReadError Json :=
  match readValue (2 * ps.length + 1) levels (skipBlanks ps) with
  | .error e => .error e
  | .ok (value, rest) => if (skipBlanks rest).isEmpty then .ok value else .error .malformed

/-- The value that a text holds. -/
def read (ps : List CodePoint) : Except ReadError Json :=
  readWithin maxDepth ps

end Json

end QueryLint
