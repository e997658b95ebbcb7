import QueryLint.Number.Decimal

/-!
# Shortest decimals

The decimal text of a double: the fewest significant digits that read back as the same double, and
of those the digits nearest to it.  The doubles around `mantissa · 2^exponent` leave an interval of
reals that read back as it; on the grid of `n`-digit decimals only the two neighbours of the value
itself can be the nearest point of that interval, so for each `n` two candidates are tried.

`Layout` holds the decisions of a format: where the exponent form begins and how it is written.
-/

namespace QueryLint

/-- Significant digits and the power of ten of the last one: `digits · 10^exponent`. -/
structure Digits where
  digits : Nat
  exponent : Int
deriving DecidableEq, Repr

namespace Binary

/-- The value and half the distances to its neighbours, as numerators over one denominator:
`value / denominator` is the double, and every real strictly between `value - below` and
`value + above` reads back as it. -/
structure Scaled where
  value : Nat
  below : Nat
  above : Nat
  denominator : Nat
deriving DecidableEq, Repr

/-- Scales by four halves, so that half of the smaller gap below a power of two is whole. -/
def scaled (b : Binary) : Scaled :=
  let atPower := b.mantissa == Nat.pow 2 52 && decide (-1074 < b.exponent)
  let unit := if 0 ≤ b.exponent then Nat.pow 2 b.exponent.natAbs else 1
  let denominator := if 0 ≤ b.exponent then 4 else 4 * Nat.pow 2 b.exponent.natAbs
  ⟨4 * b.mantissa * unit, if atPower then unit else 2 * unit, 2 * unit, denominator⟩

/-- Whether `numerator / denominator`, over the same denominator, reads back as the double; the ends
of the interval do exactly for an even mantissa. -/
def readsBack (b : Binary) (s : Scaled) (numerator : Nat) : Bool :=
  if b.mantissa % 2 = 0 then
    s.value ≤ numerator + s.below && numerator ≤ s.value + s.above
  else
    s.value < numerator + s.below && numerator < s.value + s.above

/-- The nearest of the two neighbours on the grid `10^place` that reads back, if one does.  An exact
tie goes to the even neighbour. -/
def onGrid (b : Binary) (place : Int) : Option Digits :=
  let s := b.scaled
  -- `value / denominator` measured in units of `10^place`
  let up := if 0 ≤ place then 1 else Nat.pow 10 place.natAbs
  let down := if 0 ≤ place then Nat.pow 10 place.natAbs else 1
  let t : Scaled := ⟨s.value * up, s.below * up, s.above * up, s.denominator * down⟩
  let low := t.value / t.denominator
  let toLow := t.value - low * t.denominator
  let toHigh := (low + 1) * t.denominator - t.value
  let lowOk := b.readsBack t (low * t.denominator) && low != 0
  let highOk := b.readsBack t ((low + 1) * t.denominator)
  match lowOk, highOk with
  | true, true =>
    if toLow < toHigh || (toLow == toHigh && low % 2 == 0) then some ⟨low, place⟩
    else some ⟨low + 1, place⟩
  | true, false => some ⟨low, place⟩
  | false, true => some ⟨low + 1, place⟩
  | false, false => none

/-- The power of ten of the leading digit of a positive value: the number of digits of its integer
part, less one, or the count of zeros behind the point. -/
def leadingPlace (b : Binary) : Int :=
  let s := b.scaled
  if s.denominator ≤ s.value then
    (Nat.toDigits 10 (s.value / s.denominator)).length - 1
  else
    -((Nat.toDigits 10 ((s.denominator - 1) / s.value)).length : Int)

/-- The digits of the shortest decimal of a positive value: the first grid with a hit, from one
significant digit to seventeen. -/
def shortest (b : Binary) : Digits :=
  let top := b.leadingPlace
  let hits := (List.range 18).filterMap fun (n : Nat) => b.onGrid (top - n)
  hits.headD ⟨b.mantissa, 0⟩

end Binary

namespace Digits

/-- The same number without zeros at the end. -/
def trim (d : Digits) : Digits :=
  let cs := Nat.toDigits 10 d.digits
  let zeros := (cs.reverse.takeWhile (· == '0')).length
  if d.digits = 0 then ⟨0, 0⟩ else ⟨d.digits / Nat.pow 10 zeros, d.exponent + zeros⟩

end Digits

/-- The shortest decimal that reads back as a double. -/
def Decimal.ofFloat (x : Float) : Decimal :=
  match Binary.ofBits? x.toBits with
  | none => if x.isNaN then .nan else .infinity (x < 0.0)
  | some b =>
    if b.mantissa = 0 then .finite b.negative 0 0
    else
      let d := b.shortest.trim
      .finite b.negative d.digits d.exponent

/-- The decisions of a number format. -/
structure Layout where
  /-- The lowest place of the leading digit that is still written positionally. -/
  lowest : Int
  /-- The highest place of the leading digit that is still written positionally. -/
  highest : Int
  /-- The least number of digits of a written exponent. -/
  exponentWidth : Nat
deriving DecidableEq, Repr

namespace Layout

/-- An exponent with its sign, filled up with zeros. -/
def exponentText (l : Layout) (e : Int) : String :=
  let cs := Nat.toDigits 10 e.natAbs
  let fill := List.replicate (l.exponentWidth - cs.length) '0'
  (if e < 0 then "e-" else "e+") ++ String.ofList (fill ++ cs)

/-- A positive number from its shortest digits. -/
def write (l : Layout) (d : Digits) : String :=
  let cs := Nat.toDigits 10 d.digits
  let place : Int := d.exponent + cs.length - 1
  if place < l.lowest || l.highest < place then
    let tail := cs.drop 1
    let fraction := if tail.isEmpty then "" else "." ++ String.ofList tail
    String.ofList (cs.take 1) ++ fraction ++ l.exponentText place
  else if 0 ≤ d.exponent then
    String.ofList (cs ++ List.replicate d.exponent.natAbs '0') ++ ".0"
  else if 0 ≤ place then
    let whole := place.natAbs + 1
    String.ofList (cs.take whole) ++ "." ++ String.ofList (cs.drop whole)
  else
    "0." ++ String.ofList (List.replicate (place.natAbs - 1) '0' ++ cs)

/-- The text of a double. -/
def render (l : Layout) (x : Float) : String :=
  match Binary.ofBits? x.toBits with
  | none => if x.isNaN then "nan" else if x < 0.0 then "-inf" else "inf"
  | some b =>
    let sign := if b.negative then "-" else ""
    if b.mantissa = 0 then sign ++ "0.0" else sign ++ l.write b.shortest.trim

/-- Positional from `0.0001` up to, not including, `10^16`; two digits of exponent at least. -/
def plain : Layout := ⟨-4, 15, 2⟩

end Layout

end QueryLint
