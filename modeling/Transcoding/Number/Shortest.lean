import Transcoding.Number.Magnitude

/-!
# The fewest digits that read back

A magnitude stands for all the numbers that round to it. Of the decimals among them the shortest
is written, and of several shortest the one nearest to the magnitude; of two at the same distance
the even one. For each number of digits it is enough to try the two neighbours of the magnitude on
the grid of decimals with so many digits.
-/

namespace Transcoding.Number

/-- The decimal `digits * 10 ^ exponent`. -/
structure Decimal where
  digits : Nat
  exponent : Int
  deriving DecidableEq

/-- The number of decimal digits. -/
def digitCount (n : Nat) : Nat := (Nat.toDigits 10 n).length

/-- The exponent of the leading decimal digit of a positive ratio. -/
def leadingExponent (num den : Nat) : Int :=
  if den ≤ num then Int.ofNat (digitCount (num / den)) - 1
  else -Int.ofNat (digitCount ((den - 1) / num))

/-- The numbers that round to a magnitude, over one denominator; the two ends belong to them if
`closed`. -/
structure Interval where
  low : Nat
  value : Nat
  high : Nat
  den : Nat
  closed : Bool

/-- The numbers that round to a positive magnitude. The gap below a power of two is half as wide
as the gap above it. -/
def Magnitude.interval (m : Magnitude) : Interval :=
  let four := 4 * m.significand
  let below := if m.significand = Nat.pow 2 52 && Magnitude.minExponent < m.exponent then 1 else 2
  let factor := Nat.pow 2 (m.exponent - 2).toNat
  { low := (four - below) * factor, value := four * factor, high := (four + 2) * factor
    den := Nat.pow 2 (2 - m.exponent).toNat, closed := m.significand % 2 == 0 }

/-- The decimal nearest to the value on the grid of multiples of `10 ^ exponent`, if it belongs to
the interval. -/
def Interval.onGrid (i : Interval) (exponent : Int) : Option Decimal :=
  let scale := Nat.pow 10 (-exponent).toNat
  let unit := i.den * Nat.pow 10 exponent.toNat
  let holds (n : Nat) : Bool :=
    if i.closed then i.low * scale ≤ n * unit && n * unit ≤ i.high * scale
    else i.low * scale < n * unit && n * unit < i.high * scale
  let floor := i.value * scale / unit
  let nearest := roundDiv (i.value * scale) unit
  let other := if nearest = floor then floor + 1 else floor
  if holds nearest then some ⟨nearest, exponent⟩
  else if holds other then some ⟨other, exponent⟩
  else none

/-- The shortest decimal that rounds to a positive magnitude; seventeen digits always suffice. -/
def Magnitude.shortest (m : Magnitude) : Decimal :=
  let interval := m.interval
  let leading := leadingExponent interval.value interval.den
  ((List.range 17).findSome? fun (n : Nat) => interval.onGrid (leading - n)).getD ⟨0, 0⟩

end Transcoding.Number
