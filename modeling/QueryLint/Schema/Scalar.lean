import QueryLint.Number.IntegerText
import QueryLint.Schema.Check

/-!
# Checks of single values

Texts are taken as they are.  Integers and booleans are read generously: a boolean is an integer, a
whole number may be written with a fraction of zeros, and both may come as text.  A number with a
fraction or an exponent is an integer only if it fits a machine word.
-/

namespace QueryLint

namespace Schema

/-! ### Texts -/

/-- A text as it is, whole or not. -/
def anyText : Json → Check Json.Text
  | .str t => .ok t
  | j => .fail .notAText j

/-- The characters of a text.  A half of a surrogate pair counts as one character, and the
replacement character stands in its place, also where the text is written again.  The service only
searches, counts and splits the texts that it reads so, and none of this tells a half from another
character outside ASCII; a language id, which reports show as it was sent, is read by `anyText`. -/
def text (j : Json) : Check String :=
  (anyText j).map Json.Text.chars

/-- A text with at least one character, all of them whole. -/
def nonEmptyText : Json → Check String
  | .str t =>
    if !t.isWhole then .fail .brokenText (.str t)
    else if t.chars.isEmpty then .fail .emptyText (.str t)
    else .ok t.chars
  | j => .fail .notAText j

/-- One of the given texts, each standing for a value. -/
def oneOf {α : Type} (choices : List (String × α)) (j : Json) : Check α :=
  match j with
  | .str t =>
    match choices.find? fun c => t == c.1 with
    | some c => .ok c.2
    | none => .fail .notAllowed j
  | _ => .fail .notAllowed j

/-! ### Integers -/

/-- Whether an integer fits a machine word of 64 bits with a sign. -/
def fitsWord (n : Int) : Bool :=
  -0x8000000000000000 ≤ n && n < 0x8000000000000000

/-- Whether a whole number given with a fraction or an exponent is small enough to count as an
integer. -/
def fitsExactly (n : Int) : Bool :=
  -0x8000000000000000 < n && n < 0x8000000000000000

/-- The integer that a number with a fraction or an exponent stands for. -/
def integerOfDecimal (d : Decimal) : Except IssueKind Int :=
  match Binary.ofBits? d.toFloat.toBits with
  | none => .error .notFinite
  | some b =>
    match b.integer? with
    | none => .error .fractionalInteger
    | some n => if fitsExactly n then .ok n else .error .oversizedInteger

/-- The integer that a text stands for. -/
def integerOfJsonText (t : Json.Text) : Except IssueKind Int :=
  if !t.isWhole then .error .brokenText
  else
    match integerOfText t.chars.toList with
    | .ok n => .ok n
    | .error .unreadable => .error .unreadableInteger
    | .error .tooLong => .error .oversizedInteger

/-- A value, or the reason why there is none. -/
def ofExcept {α : Type} (input : Json) : Except IssueKind α → Check α
  | .ok a => .ok a
  | .error kind => .fail kind input

/-- An integer. -/
def integer (j : Json) : Check Int :=
  match j with
  | .int n => .ok n
  | .bool b => .ok (if b then 1 else 0)
  | .decimal d => ofExcept j (integerOfDecimal d)
  | .str t => ofExcept j (integerOfJsonText t)
  | _ => .fail .notAnInteger j

/-- An integer that is not negative. -/
def natural (j : Json) : Check Nat :=
  (integer j).bind fun n => if n < 0 then .fail .negative j else .ok n.toNat

/-! ### Booleans -/

/-- The texts that mean yes, in lower case. -/
def yesWords : List String := ["1", "true", "t", "yes", "y", "on"]

/-- The texts that mean no, in lower case. -/
def noWords : List String := ["0", "false", "f", "no", "n", "off"]

/-- The boolean that a text stands for, up to ASCII case. -/
def booleanText? (s : String) : Option Bool :=
  let word := String.ofList (s.toList.map Char.toLower)
  if yesWords.contains word then some true
  else if noWords.contains word then some false
  else none

/-- The boolean that an integer stands for. -/
def booleanOfInteger (n : Int) : Except IssueKind Bool :=
  if n = 0 then .ok false else if n = 1 then .ok true else .error .unreadableBoolean

/-- The boolean that a text of any kind stands for. -/
def booleanOfJsonText (t : Json.Text) : Except IssueKind Bool :=
  if !t.isWhole then .error .brokenText
  else
    match booleanText? t.chars with
    | some b => .ok b
    | none => .error .unreadableBoolean

/-- A boolean.  Numbers beyond the range of integers are no booleans at all. -/
def boolean (j : Json) : Check Bool :=
  match j with
  | .bool b => .ok b
  | .int n => if fitsWord n then ofExcept j (booleanOfInteger n) else .fail .notABoolean j
  | .decimal d =>
    match integerOfDecimal d with
    | .ok n => ofExcept j (booleanOfInteger n)
    | .error _ => .fail .notABoolean j
  | .str t => ofExcept j (booleanOfJsonText t)
  | _ => .fail .notABoolean j

end Schema

end QueryLint
