/-!
# Parts of a text

Looking for one text inside another, and cutting or filling a text to a number of characters.
-/

namespace QueryLint

/-- Whether the first text occurs somewhere in the second. -/
def occursInChars (part : List Char) : List Char → Bool
  | [] => part.isEmpty
  | c :: rest => part.isPrefixOf (c :: rest) || occursInChars part rest

/-- Whether a text holds another. -/
def hasPart (text part : String) : Bool :=
  occursInChars part.toList text.toList

/-- The first characters of a text. -/
def firstChars (n : Nat) (text : String) : String :=
  String.ofList (text.toList.take n)

/-- A text filled up with spaces on the right to a number of characters. -/
def padRight (width : Nat) (text : String) : String :=
  text ++ String.ofList (List.replicate (width - text.length) ' ')

end QueryLint
