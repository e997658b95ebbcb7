import QueryLint.Number.Decimal
import QueryLint.Text.CodePoint

/-!
# JSON values

The values that requests bring and answers carry.  Integers have no bound; the fields of an object
keep the order in which they were read.

A JSON text may hold half of a surrogate pair without the other half, most often by an escape.  Such
a half is no character; `Json.Text` remembers it beside the characters.
-/

namespace QueryLint

/-- A text as JSON can hold it. -/
structure Json.Text where
  /-- The characters, with the replacement character in place of each half that stands alone. -/
  chars : String
  /-- The halves that stand alone: the place of each and its code point. -/
  halves : List (Nat × Nat) := []
deriving DecidableEq, Repr

instance : Coe String Json.Text := ⟨fun s => ⟨s, []⟩⟩

/-- A JSON value. -/
inductive Json where
  | null
  | bool (b : Bool)
  | int (n : Int)
  | decimal (d : Decimal)
  | str (t : Json.Text)
  | arr (items : List Json)
  | obj (fields : List (Json.Text × Json))
deriving Repr

namespace Json

namespace Text

/-- The character that stands where a half stands alone. -/
def replacement : Char := '\uFFFD'

/-- Whether the text holds characters only. -/
def isWhole (t : Text) : Bool :=
  t.halves.isEmpty

/-- The code points of a text. -/
def points (t : Text) : List Nat :=
  t.halves.foldl (fun ps h => ps.set h.1 h.2) (t.chars.toList.map Char.toNat)

/-- The code points of a text, characters and halves told apart. -/
def codePoints (t : Text) : List CodePoint :=
  t.points.map CodePoint.ofNat

end Text

/-- The fields of an object. -/
abbrev Fields := List (Text × Json)

mutual

/-- How many levels of arrays and objects a value has. -/
def depth : Json → Nat
  | arr items => itemsDepth items + 1
  | obj fields => fieldsDepth fields + 1
  | _ => 0

/-- The levels of the deepest of several values. -/
def itemsDepth : List Json → Nat
  | [] => 0
  | j :: rest => max j.depth (itemsDepth rest)

/-- The levels of the deepest of several fields. -/
def fieldsDepth : List (Text × Json) → Nat
  | [] => 0
  | (_, j) :: rest => max j.depth (fieldsDepth rest)

end

/-- The value of a field of an object. -/
def fieldOf (fields : Fields) (key : Text) : Option Json :=
  (fields.find? fun f => f.1 == key).map Prod.snd

/-- The value of a field; other values than objects have no fields. -/
def field? (j : Json) (key : Text) : Option Json :=
  match j with
  | obj fields => fieldOf fields key
  | _ => none

/-- Adds a field, or replaces its value where it stands. -/
def putField {κ : Type} [BEq κ] (fields : List (κ × Json)) (key : κ) (value : Json) :
    List (κ × Json) :=
  if fields.any fun f => f.1 == key then
    fields.map fun f => if f.1 == key then (key, value) else f
  else fields ++ [(key, value)]

/-- An array of texts. -/
def strings (items : List String) : Json :=
  arr (items.map fun (s : String) => str s)

/-- A natural number. -/
def nat (n : Nat) : Json :=
  int n

/-- An object with plain names. -/
def record (fields : List (String × Json)) : Json :=
  obj (fields.map fun (key, value) => (↑key, value))

end Json

end QueryLint
