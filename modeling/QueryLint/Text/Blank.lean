import QueryLint.Text.CodeRange

/-!
# Blanks

Unicode whitespace: the separators of the standard, the ASCII control characters that move the
position, and the four information separators `U+001C` to `U+001F`.  The zero width space is none.
-/

namespace QueryLint

/-- The code points of blanks. -/
def blankRanges : List CodeRange :=
  [(0x0009, 0x000D), (0x001C, 0x0020), (0x0085, 0x0085), (0x00A0, 0x00A0), (0x1680, 0x1680),
    (0x2000, 0x200A), (0x2028, 0x2029), (0x202F, 0x202F), (0x205F, 0x205F), (0x3000, 0x3000)]

/-- Whether a character is a blank. -/
def isBlank (c : Char) : Bool :=
  inRanges blankRanges c

/-- Blanks that may stand around a number: all but the information separators. -/
def isNumberBlank (c : Char) : Bool :=
  isBlank c && !(0x1C ≤ c.toNat && c.toNat ≤ 0x1F)

/-- A text without the characters of a kind at its two ends. -/
def trimWhere (p : Char → Bool) (cs : List Char) : List Char :=
  ((cs.dropWhile p).reverse.dropWhile p).reverse

end QueryLint
