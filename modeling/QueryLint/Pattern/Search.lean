import QueryLint.Pattern.Basic

/-!
# Searching

A search reports the leftmost stretch that a pattern matches, prefers in each choice the longer run
or the first alternative, goes back to the next preference when the rest fails, and continues behind
the stretch it reported.

The preferred end of a match depends only on the offset where the match starts.  So the ends are
kept in a table with one entry per offset of the text, `0` to its length: `ends t p k` is the table
for `p` when `k` is the table for whatever follows `p`.  Each step of a pattern fills its table in
one pass, a run from the right, and the whole search takes time linear in the text.
-/

namespace QueryLint

/-- A stretch of text: from `start` up to, not including, `stop`. -/
structure Span where
  start : Nat
  stop : Nat
deriving DecidableEq, Repr

namespace Span

/-- Number of characters of the stretch. -/
def length (s : Span) : Nat :=
  s.stop - s.start

end Span

/-- For each offset of a text the end of the preferred match that starts there, if there is one. -/
abbrev EndTable := List (Option Nat)

namespace Pattern

/-- The table of a pattern that is already complete: every match ends where it starts. -/
def doneTable (t : List Char) : EndTable :=
  (List.range (t.length + 1)).map some

/-- One character of the class, then what the table says one offset further. -/
def oneTable (s : CharClass) (t : List Char) (k : EndTable) : EndTable :=
  List.zipWith (fun c r => if s.contains c then r else none) t k.tail ++ [none]

/-- For each offset whether it is a word boundary. -/
def boundaries (t : List Char) : List Bool :=
  List.zipWith (fun a b => a != b) (false :: t.map isWord) (t.map isWord ++ [false])

/-- What the table says, at word boundaries only. -/
def boundaryTable (t : List Char) (k : EndTable) : EndTable :=
  List.zipWith (fun b r => if b then r else none) (boundaries t) k

/-- A run of the class, as long as the rest allows: at each offset the run goes on if it can and the
rest can still be matched from further right, and ends here otherwise. -/
def manyTable (s : CharClass) (t : List Char) (k : EndTable) : EndTable :=
  (t.zip k).foldr
    (fun (c, r) table => (if s.contains c then (table.headD none) <|> r else r) :: table)
    (k.drop t.length)

/-- Entry by entry the first table, where it has no entry the second. -/
def preferTable (a b : EndTable) : EndTable :=
  List.zipWith (fun x y => x <|> y) a b

/-- The table of preferred ends of a pattern, given the table for what follows it. -/
def ends (t : List Char) : Pattern → EndTable → EndTable
  | empty, k => k
  | one s, k => oneTable s t k
  | boundary, k => boundaryTable t k
  | many s, k => manyTable s t k
  | many1 s, k => oneTable s t (manyTable s t k)
  | seq p q, k => ends t p (ends t q k)
  | alt p q, k => preferTable (ends t p k) (ends t q k)
  | opt p, k => preferTable (ends t p k) k

/-! ### Every table has one entry per offset -/

@[simp]
theorem length_doneTable (t : List Char) : (doneTable t).length = t.length + 1 := by
  simp [doneTable]

theorem length_oneTable {s : CharClass} {t : List Char} {k : EndTable}
    (h : k.length = t.length + 1) : (oneTable s t k).length = t.length + 1 := by
  simp [oneTable, h]

@[simp]
theorem length_boundaries (t : List Char) : (boundaries t).length = t.length + 1 := by
  simp [boundaries]

theorem length_boundaryTable {t : List Char} {k : EndTable} (h : k.length = t.length + 1) :
    (boundaryTable t k).length = t.length + 1 := by
  simp [boundaryTable, h]

theorem length_manyTable {s : CharClass} {t : List Char} {k : EndTable}
    (h : k.length = t.length + 1) : (manyTable s t k).length = t.length + 1 := by
  have go : ∀ (l : List (Char × Option Nat)) (init : EndTable),
      (l.foldr (fun (c, r) table =>
        (if s.contains c then (table.headD none) <|> r else r) :: table) init).length
        = l.length + init.length := by
    intro l init
    induction l with
    | nil => simp
    | cons x l ih =>
      simp only [List.foldr_cons, List.length_cons, ih]
      omega
  rw [manyTable, go]
  simp [h]

theorem length_preferTable {n : Nat} {a b : EndTable} (ha : a.length = n) (hb : b.length = n) :
    (preferTable a b).length = n := by
  simp [preferTable, ha, hb]

theorem length_ends (p : Pattern) {t : List Char} {k : EndTable} (h : k.length = t.length + 1) :
    (ends t p k).length = t.length + 1 := by
  induction p generalizing k with
  | empty => exact h
  | one s => exact length_oneTable h
  | boundary => exact length_boundaryTable h
  | many s => exact length_manyTable h
  | many1 s => exact length_oneTable (length_manyTable h)
  | seq p q ihp ihq => exact ihp (ihq h)
  | alt p q ihp ihq => exact length_preferTable (ihp h) (ihq h)
  | opt p ih => exact length_preferTable (ih h) h

/-- The preferred end of a match of the whole pattern, for each offset. -/
def endTable (p : Pattern) (t : List Char) : EndTable :=
  p.ends t (doneTable t)

theorem length_endTable (p : Pattern) (t : List Char) : (p.endTable t).length = t.length + 1 :=
  length_ends p (length_doneTable t)

/-- Reads a table from left to right: an entry is reported unless it starts before `free`, the end
of the last report. -/
def collect : (offset free : Nat) → EndTable → List Span
  | _, _, [] => []
  | i, free, none :: table => collect (i + 1) free table
  | i, free, some j :: table =>
    if i < free then collect (i + 1) free table else ⟨i, j⟩ :: collect (i + 1) j table

/-- All reported matches, left to right. -/
def spans (p : Pattern) (t : List Char) : List Span :=
  collect 0 0 (p.endTable t)

/-- Whether the pattern matches anywhere. -/
def occursIn (p : Pattern) (t : List Char) : Bool :=
  (p.endTable t).any Option.isSome

end Pattern

end QueryLint
