/-!
# Binary magnitudes

Numbers with 53 significant bits, as exact values: a significand and a power of two. Every
operation computes its exact result as a ratio of natural numbers and rounds it once to the nearest
magnitude, a half to the even neighbour. The exponent is bounded below; whether a magnitude lies
beyond the greatest finite one is asked afterwards by `overflows`.
-/

namespace Transcoding.Number

/-- The number `significand * 2 ^ exponent`. -/
structure Magnitude where
  significand : Nat
  exponent : Int
  deriving DecidableEq

/-- The quotient rounded to the nearest natural number, a half to the even one. -/
def roundDiv (num den : Nat) : Nat :=
  let quotient := num / den
  let twice := 2 * (num % den)
  if twice < den then quotient
  else if den < twice then quotient + 1
  else quotient + quotient % 2

namespace Magnitude

/-- The least exponent. -/
def minExponent : Int := -1074

/-- The greatest exponent of a finite magnitude. -/
def maxExponent : Int := 971

/-- The magnitude zero. -/
def zero : Magnitude := ⟨0, minExponent⟩

/-- The magnitude lies beyond the greatest finite one. -/
def overflows (m : Magnitude) : Bool := maxExponent < m.exponent

/-- The ratio `num / den` divided by `2 ^ exponent`, again as a ratio. -/
def scaleDown (num den : Nat) (exponent : Int) : Nat × Nat :=
  (num * Nat.pow 2 (-exponent).toNat, den * Nat.pow 2 exponent.toNat)

/-- The exponent at which the ratio has a significand of 53 bits, if that is not below the
least. -/
def exponentOf (num den : Nat) : Int :=
  let guess : Int := Int.ofNat num.log2 - Int.ofNat den.log2 - 52
  let (n, d) := scaleDown num den guess
  max minExponent (if n < d * Nat.pow 2 52 then guess - 1 else guess)

/-- The magnitude nearest to `num / den`. -/
def ofRatio (num den : Nat) : Magnitude :=
  if num = 0 then zero
  else
    let exponent := exponentOf num den
    let (n, d) := scaleDown num den exponent
    let significand := roundDiv n d
    if significand = Nat.pow 2 53 then ⟨Nat.pow 2 52, exponent + 1⟩ else ⟨significand, exponent⟩

/-- The magnitude nearest to a natural number. -/
def ofNat (n : Nat) : Magnitude := ofRatio n 1

/-- The product, rounded. -/
def mul (a b : Magnitude) : Magnitude :=
  let (n, d) := scaleDown (a.significand * b.significand) 1 (-(a.exponent + b.exponent))
  ofRatio n d

/-- The quotient, rounded. -/
def div (a b : Magnitude) : Magnitude :=
  let (n, d) := scaleDown a.significand b.significand (b.exponent - a.exponent)
  ofRatio n d

/-- The magnitude nearest to a power of ten. -/
def powerOfTen (k : Nat) : Magnitude := ofNat (Nat.pow 10 k)

end Magnitude

end Transcoding.Number
