import QueryLint.Text.Blank

/-!
# Integers in texts

`integerOfText` reads an integer that a client wrote as a text.  The text is first read strictly,
and if that fails once more after it has been tidied: blanks around it, a plus sign, zeros and
underscores in front, single underscores between digits and a fraction of zeros do not matter.

An integer of more than `maxIntegerDigits` digits is too long to be read; only a strict text is told
apart as such.
-/

namespace QueryLint

/-- The most digits of an integer that is still read. -/
def maxIntegerDigits : Nat := 4300

/-- The value of decimal digits. -/
def digitsValue (cs : List Char) : Nat :=
  cs.foldl (fun n c => 10 * n + (c.toNat - '0'.toNat)) 0

/-- Why a text is not read as an integer. -/
inductive IntegerTextError where
  | unreadable
  | tooLong
deriving DecidableEq, Repr

namespace IntegerText

/-! ### Strict texts -/

/-- Whether a character is a digit other than zero. -/
def isLeadingDigit (c : Char) : Bool :=
  c.isDigit && c != '0'

/-- The digits of an integer without its sign: a single zero, or digits of which the first is not
zero.  Too many digits are found out before the rest of the text is looked at. -/
def strictMagnitude (cs : List Char) : Except IntegerTextError Nat :=
  match cs with
  | ['0'] => .ok 0
  | c :: _ =>
    if !isLeadingDigit c then .error .unreadable
    else
      let digits := cs.takeWhile Char.isDigit
      if maxIntegerDigits < digits.length then .error .tooLong
      else if digits.length = cs.length then .ok (digitsValue digits)
      else .error .unreadable
  | [] => .error .unreadable

/-- An integer without anything that could be left out. -/
def strict (cs : List Char) : Except IntegerTextError Int :=
  match cs with
  | '-' :: rest => (strictMagnitude rest).map fun n => -(n : Int)
  | _ => (strictMagnitude cs).map fun n => (n : Int)

/-! ### Tidying -/

/-- The text behind zeros and underscores that stand in front of it, the last of which is given.  A
point keeps the character before it, and so does the end of the text. -/
def behindZeros (last : Char) : List Char → Option (List Char)
  | [] => some [last]
  | c :: rest =>
    if c == '0' || c == '_' then behindZeros c rest
    else if isLeadingDigit c || c == '-' then some (c :: rest)
    else if c == '.' then some (last :: c :: rest)
    else none

/-- The text without zeros in front; it has to begin with a digit. -/
def dropZeros : List Char → Option (List Char)
  | [] => none
  | c :: rest =>
    if c == '0' then behindZeros c rest
    else if isLeadingDigit c then some (c :: rest)
    else none

/-- The text without a fraction of zeros. -/
def dropFraction (cs : List Char) : List Char :=
  match cs.dropWhile (· != '.') with
  | [] => cs
  | _ :: zeros =>
    if !zeros.isEmpty && zeros.all (· == '0') then cs.takeWhile (· != '.') else cs

/-- Whether two underscores stand side by side. -/
def hasDoubleUnderscore : List Char → Bool
  | [] => false
  | c :: rest => (c == '_' && rest.head? == some '_') || hasDoubleUnderscore rest

/-- The text without underscores, if they stand alone and inside the text. -/
def dropUnderscores (cs : List Char) : List Char :=
  if cs.head? == some '_' || cs.getLast? == some '_' || hasDoubleUnderscore cs then cs
  else cs.filter (· != '_')

/-- The digits of a text without its sign. -/
def tidyMagnitude (cs : List Char) : Option (List Char) :=
  (dropZeros cs).map fun cs => dropUnderscores (dropFraction cs)

/-- The text without all that could be left out.  One sign may stand in front. -/
def tidy (cs : List Char) : Option (List Char) :=
  match cs with
  | '-' :: rest => (tidyMagnitude rest).map ('-' :: ·)
  | '+' :: rest => tidyMagnitude rest
  | _ => tidyMagnitude cs

end IntegerText

open IntegerText in
/-- The integer that a text stands for. -/
def integerOfText (cs : List Char) : Except IntegerTextError Int :=
  match strict cs with
  | .ok n => .ok n
  | .error .tooLong => .error .tooLong
  | .error .unreadable =>
    match (tidy (trimWhere isNumberBlank cs)).map strict with
    | some (.ok n) => .ok n
    | _ => .error .unreadable

end QueryLint
