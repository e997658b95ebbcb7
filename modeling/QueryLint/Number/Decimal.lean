/-!
# Decimal numbers with a fraction or an exponent

A number as it is written: a sign, digits and a power of ten.  `Decimal.toFloat` gives the nearest
double, and `Decimal.integer?` the integer that this double is equal to, if there is one.
-/

namespace QueryLint

/-- A written number that is not an integer literal. -/
inductive Decimal where
  /-- The value `±digits · 10^exponent`. -/
  | finite (negative : Bool) (digits : Nat) (exponent : Int)
  | infinity (negative : Bool)
  | nan
deriving DecidableEq, Repr

namespace Decimal

/-- The largest number of places before the point that a finite double can have, with room to
spare; a number outside is infinite, or zero on the other side. -/
def exponentLimit : Int := 400

/-- The double nearest to `digits · 10^exponent`. -/
def magnitude (digits : Nat) (exponent : Int) : Float :=
  let places := exponent + (Nat.toDigits 10 digits).length
  if digits = 0 || places < -exponentLimit then 0.0
  else if exponentLimit < places then 1.0 / 0.0
  else if exponent < 0 then Float.ofScientific digits true exponent.natAbs
  else Float.ofScientific digits false exponent.natAbs

/-- The double nearest to the number. -/
def toFloat : Decimal → Float
  | finite negative digits exponent =>
    if negative then -magnitude digits exponent else magnitude digits exponent
  | infinity negative => if negative then -1.0 / 0.0 else 1.0 / 0.0
  | nan => 0.0 / 0.0

end Decimal

/-- A finite double `±mantissa · 2^exponent`, taken apart from its bits. -/
structure Binary where
  negative : Bool
  mantissa : Nat
  exponent : Int
deriving DecidableEq, Repr

namespace Binary

/-- The parts of a double: 52 bits of fraction below 11 bits of exponent below the sign.  Infinities
and NaN, whose exponent bits are all set, have none. -/
def ofBits? (bits : UInt64) : Option Binary :=
  let n : Nat := bits.toNat
  let fraction : Nat := n % Nat.pow 2 52
  let exponent : Nat := n / Nat.pow 2 52 % Nat.pow 2 11
  let negative := n / Nat.pow 2 63 == 1
  if exponent = Nat.pow 2 11 - 1 then none
  else if exponent = 0 then some ⟨negative, fraction, -1074⟩
  else some ⟨negative, fraction + Nat.pow 2 52, (exponent : Int) - 1075⟩

/-- The integer that the double is equal to. -/
def integer? (b : Binary) : Option Int :=
  let scale := Nat.pow 2 b.exponent.natAbs
  let magnitude : Option Nat :=
    if 0 ≤ b.exponent then some (b.mantissa * scale)
    else if b.mantissa % scale = 0 then some (b.mantissa / scale)
    else none
  magnitude.map fun n => if b.negative then -(n : Int) else n

end Binary

namespace Decimal

/-- The integer that the nearest double is equal to. -/
def integer? (d : Decimal) : Option Int :=
  (Binary.ofBits? d.toFloat.toBits).bind Binary.integer?

end Decimal

end QueryLint
