/-!
# Lines

Positions by line and character, both counted from zero.  A line ends with a carriage return and
line feed together, or with either of them alone; no other character ends a line.  A position is
asked by an offset, which is first moved into the text.
-/

namespace QueryLint

/-- A place in a text: a line, and a character of that line. -/
structure Position where
  line : Nat
  character : Nat
deriving DecidableEq, Repr

/-- The offsets just behind each line break, for a text that starts at the given offset. -/
def breakEnds : Nat → List Char → List Nat
  | _, [] => []
  | i, '\r' :: '\n' :: rest => (i + 2) :: breakEnds (i + 2) rest
  | i, c :: rest =>
    if c == '\r' || c == '\n' then (i + 1) :: breakEnds (i + 1) rest else breakEnds (i + 1) rest

/-- Where the lines of a text start, and how many characters it has. -/
structure LineIndex where
  size : Nat
  starts : List Nat
deriving DecidableEq, Repr

namespace LineIndex

/-- The line index of a text. -/
def ofText (text : String) : LineIndex :=
  let cs := text.toList
  ⟨cs.length, 0 :: breakEnds 0 cs⟩

/-- The nearest offset inside the text. -/
def clamp (index : LineIndex) (offset : Int) : Nat :=
  min offset.toNat index.size

/-- The position of an offset: the last line that starts at or before it. -/
def position (index : LineIndex) (offset : Int) : Position :=
  let place := index.clamp offset
  let before := index.starts.filter fun start => start ≤ place
  ⟨before.length - 1, place - before.getLastD 0⟩

end LineIndex

end QueryLint
