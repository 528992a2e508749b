import Transcoding.Json.Value

/-!
# Numerals

A numeral is a number as it is written: a sign, digits, perhaps a fraction and an exponent. Its
value is an integer if it has neither fraction nor exponent and fits 64 bits, and a floating-point
number otherwise. The value of a floating-point numeral is found by scaling: as many digits as fit
64 bits are read as an integer and rounded, and the result is multiplied or divided by a power of
ten, each step rounded. A numeral beyond the greatest floating-point number has no value.
-/

namespace Transcoding.Json

open Transcoding.Number

/-- A number as it is written. -/
structure Numeral where
  negative : Bool
  /-- The digits before the point. -/
  whole : List Nat
  /-- The digits after the point. -/
  fraction : List Nat := []
  /-- The sign of the exponent, true if negative, and its digits. -/
  exponent : Option (Bool × List Nat) := none
  deriving DecidableEq

/-- The number that decimal digits stand for. -/
def digitsValue (digits : List Nat) : Nat := digits.foldl (fun n d => n * 10 + d) 0

/-- The greatest natural number of 64 bits. -/
def maxNatural : Nat := Nat.pow 2 64 - 1

/-- The greatest exponent that is read; a greater one stands for zero or for no number. -/
def maxWrittenExponent : Nat := Nat.pow 2 31 - 1

/-- An integer of 64 bits and a power of ten to scale it by. -/
structure Scaled where
  significand : Nat
  exponent : Int

/-- One more digit before the point: it is read while 64 bits hold it, and counted after that. -/
def Scaled.addWhole : Scaled × Bool → Nat → Scaled × Bool
  | (s, full), digit =>
    if full || maxNatural < s.significand * 10 + digit then
      ({ s with exponent := s.exponent + 1 }, true)
    else ({ s with significand := s.significand * 10 + digit }, false)

/-- One more digit after the point: it is read while 64 bits hold it, and dropped after that. -/
def Scaled.addFraction : Scaled × Bool → Nat → Scaled × Bool
  | (s, full), digit =>
    if full || maxNatural < s.significand * 10 + digit then (s, true)
    else ({ significand := s.significand * 10 + digit, exponent := s.exponent - 1 }, false)

/-- The digits of a numeral, read into 64 bits. -/
def Numeral.scaled (n : Numeral) : Scaled :=
  let whole := (n.whole.foldl Scaled.addWhole ({ significand := 0, exponent := 0 }, false)).1
  (n.fraction.foldl Scaled.addFraction (whole, false)).1

/-- The greatest power of ten that is a magnitude. -/
def maxPower : Nat := 308

/-- A magnitude divided by a power of ten. Two steps reach every positive quotient of a number of
64 bits; below them all is zero. -/
def divideByPower (m : Magnitude) (power : Nat) : Magnitude :=
  if power ≤ maxPower then m.div (.powerOfTen power)
  else if power ≤ 2 * maxPower then
    (m.div (.powerOfTen maxPower)).div (.powerOfTen (power - maxPower))
  else .zero

/-- The magnitude of a scaled integer, if it is finite. -/
def Scaled.magnitude? (s : Scaled) : Option Magnitude :=
  let m := Magnitude.ofNat s.significand
  if s.significand = 0 then some .zero
  else if s.exponent < 0 then some (divideByPower m s.exponent.natAbs)
  else if maxPower < s.exponent.natAbs then none
  else
    let product := m.mul (.powerOfTen s.exponent.natAbs)
    if product.overflows then none else some product

/-- The magnitude of a numeral as a floating-point number, if it is finite. -/
def Numeral.magnitude? (n : Numeral) : Option Magnitude :=
  let s := n.scaled
  match n.exponent with
  | none => s.magnitude?
  | some (negative, digits) =>
    let written := digitsValue digits
    if maxWrittenExponent < written then
      if s.significand = 0 || negative then some .zero else none
    else if negative then { s with exponent := s.exponent - written }.magnitude?
    else { s with exponent := s.exponent + written }.magnitude?

/-- The value of a numeral. A negative zero is a floating-point number. -/
def Numeral.value? (n : Numeral) : Option JsonNumber :=
  let double := n.magnitude?.map (JsonNumber.double n.negative)
  if n.fraction.isEmpty && n.exponent.isNone then
    let value := digitsValue n.whole
    if n.negative then
      if 0 < value && value ≤ Nat.pow 2 63 then some (.integer (-Int.ofNat value)) else double
    else if value ≤ maxNatural then some (.integer value) else double
  else double

end Transcoding.Json
