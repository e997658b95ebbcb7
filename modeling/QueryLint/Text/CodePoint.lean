/-!
# Code points

A decoded text is a list of code points.  Most of them are characters; half of a surrogate pair that
stands alone has a code point too, but is no character.
-/

namespace QueryLint

/-- Whether a number is half of a surrogate pair. -/
def CodePoint.isHalf (n : Nat) : Bool :=
  0xD800 ≤ n && n < 0xE000

/-- A code point of a decoded text. -/
inductive CodePoint where
  | char (c : Char)
  /-- Half of a surrogate pair without the other half. -/
  | half (n : Nat) (isHalf : CodePoint.isHalf n = true)
deriving DecidableEq, Repr

namespace CodePoint

/-- The code point of a number. -/
def ofNat (n : Nat) : CodePoint :=
  if h : isHalf n = true then half n h else char (Char.ofNat n)

/-- The characters of a text as code points. -/
def ofChars (cs : List Char) : List CodePoint :=
  cs.map char

/-- The character, if the code point is one. -/
def char? : CodePoint → Option Char
  | char c => some c
  | half .. => none

/-- Whether the code point is a decimal digit. -/
def isDigit : CodePoint → Bool
  | char c => c.isDigit
  | half .. => false

/-- The digits that a text begins with. -/
def digits (ps : List CodePoint) : List Char :=
  (ps.takeWhile isDigit).filterMap char?

/-- The text behind the digits that it begins with. -/
def behindDigits (ps : List CodePoint) : List CodePoint :=
  ps.dropWhile isDigit

/-- A character is never half of a pair. -/
theorem isHalf_toNat (c : Char) : isHalf c.toNat = false := by
  have hvalid : c.toNat < 0xD800 ∨ 0xDFFF < c.toNat ∧ c.toNat < 0x110000 := c.valid
  simp only [isHalf, Bool.and_eq_false_iff, decide_eq_false_iff_not]
  omega

@[simp]
theorem ofNat_toNat (c : Char) : ofNat c.toNat = char c := by
  rw [ofNat, dif_neg (by rw [isHalf_toNat]; exact Bool.false_ne_true), Char.ofNat_toNat]

end CodePoint

end QueryLint
