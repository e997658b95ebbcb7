import QueryLint.Text.CodePoint

/-!
# Encodings

A body arrives as bytes.  JSON begins with ASCII characters, so that the zeros among its first bytes
tell how wide its code units are and which byte of a unit comes first.

A unit that is half of a surrogate pair and stands alone is kept as such a half.
-/

namespace QueryLint

/-- Which byte of a code unit comes first. -/
inductive ByteOrder where
  | bigEndian
  | littleEndian
deriving DecidableEq, Repr

/-- How code points are written as bytes. -/
inductive Encoding where
  | utf8
  | utf16 (order : ByteOrder)
  | utf32 (order : ByteOrder)
deriving DecidableEq, Repr

namespace ByteOrder

/-- The number that the bytes of one unit make. -/
def value (order : ByteOrder) (bytes : List UInt8) : Nat :=
  let most := match order with
    | bigEndian => bytes
    | littleEndian => bytes.reverse
  most.foldl (fun n b => 256 * n + b.toNat) 0

end ByteOrder

namespace Encoding

/-- The encoding that the first bytes of a text show. -/
def detect : List UInt8 → Encoding
  | a :: b :: c :: d :: _ =>
    if a = 0 then if b = 0 then utf32 .bigEndian else utf16 .bigEndian
    else if b = 0 then
      if c = 0 ∧ d = 0 then utf32 .littleEndian else utf16 .littleEndian
    else utf8
  | [a, b] =>
    if a = 0 then utf16 .bigEndian else if b = 0 then utf16 .littleEndian else utf8
  | _ => utf8

/-- The units of two bytes; none if a byte is left over. -/
def units16 (order : ByteOrder) : List UInt8 → Option (List Nat)
  | [] => some []
  | a :: b :: rest => (units16 order rest).map (order.value [a, b] :: ·)
  | [_] => none

/-- The units of four bytes; none if bytes are left over. -/
def units32 (order : ByteOrder) : List UInt8 → Option (List Nat)
  | [] => some []
  | a :: b :: c :: d :: rest => (units32 order rest).map (order.value [a, b, c, d] :: ·)
  | _ => none

/-- The code points of units of two bytes; two halves of a pair make one character. -/
def points16 : List Nat → List CodePoint
  | [] => []
  | [n] => [.ofNat n]
  | n :: m :: rest =>
    if 0xD800 ≤ n ∧ n < 0xDC00 ∧ 0xDC00 ≤ m ∧ m < 0xE000 then
      .ofNat (0x10000 + (n - 0xD800) * 0x400 + (m - 0xDC00)) :: points16 rest
    else .ofNat n :: points16 (m :: rest)

/-- The code points of units of four bytes, if all of them are code points. -/
def points32 (units : List Nat) : Option (List CodePoint) :=
  if units.all (· < 0x110000) then some (units.map .ofNat) else none

/-- The characters behind a byte order mark. -/
def skipMark : List Char → List Char
  | '\uFEFF' :: rest => rest
  | cs => cs

/-- The code points of a body, whose bytes are those of the given text; none if they do not make
sense in the encoding that the first of them show. -/
def decode (body : String) : Option (List CodePoint) :=
  let bytes := body.toUTF8.toList
  match detect bytes with
  | utf8 => some (CodePoint.ofChars (skipMark body.toList))
  | utf16 order => (units16 order bytes).map points16
  | utf32 order => (units32 order bytes).bind points32

end Encoding

end QueryLint
