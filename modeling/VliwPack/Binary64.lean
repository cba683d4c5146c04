/-! # Double-precision quotients

A ratio of counters is reported as a binary floating-point number with a 53-bit
mantissa, computed as hardware does: each counter is rounded to such a number,
then their quotient is. Every rounding goes to the nearest number, a tie to the
one with an even mantissa. All of it is exact arithmetic on natural numbers.
-/

namespace VliwPack

/-- The quotient of two natural numbers rounded to the nearest natural number, a
tie to the even one. -/
def roundQuotient (numerator denominator : Nat) : Nat :=
  let quotient := numerator / denominator
  let twice := 2 * (numerator % denominator)
  if twice < denominator then quotient
  else if denominator < twice then quotient + 1
  else quotient + quotient % 2

/-- The number `mantissa * 2 ^ exponent`. -/
structure Binary64 where
  mantissa : Nat
  exponent : Int
  deriving DecidableEq

namespace Binary64

/-- Bits of a mantissa. -/
def precision : Nat := 53

/-- Zero. -/
def zero : Binary64 := ⟨0, 0⟩

/-- Numerator and denominator of `numerator / denominator / 2 ^ exponent`. -/
def scaled (numerator denominator : Nat) (exponent : Int) : Nat × Nat :=
  (numerator * Nat.pow 2 (-exponent).toNat, denominator * Nat.pow 2 exponent.toNat)

/-- The exponent that leaves a quotient exactly the digits of a mantissa before
the binary point. -/
def quotientExponent (numerator denominator : Nat) : Int :=
  let low : Int := (numerator.log2 : Int) - denominator.log2 - precision
  let (top, bottom) := scaled numerator denominator low
  if top / bottom < Nat.pow 2 precision then low else low + 1

/-- The number nearest to a quotient of natural numbers. -/
def ofQuotient (numerator denominator : Nat) : Binary64 :=
  if numerator = 0 then
    zero
  else
    let exponent := quotientExponent numerator denominator
    let (top, bottom) := scaled numerator denominator exponent
    let mantissa := roundQuotient top bottom
    if mantissa = Nat.pow 2 precision then ⟨Nat.pow 2 (precision - 1), exponent + 1⟩
    else ⟨mantissa, exponent⟩

/-- The number nearest to a natural number. -/
def ofNat (n : Nat) : Binary64 := ofQuotient n 1

/-- The number nearest to the quotient of two numbers. -/
def div (x y : Binary64) : Binary64 :=
  let (top, bottom) := scaled x.mantissa y.mantissa (y.exponent - x.exponent)
  ofQuotient top bottom

/-- The interchange encoding of zero, or of a number with a full mantissa and an
exponent in the normal range. -/
def bits (x : Binary64) : Nat :=
  if x.mantissa = 0 then
    0
  else
    let leading := Nat.pow 2 (precision - 1)
    (x.exponent + 1075).toNat * leading + (x.mantissa - leading)

/-- A number with the given count of decimal places, rounded to the nearest such
text, a tie to the even one. -/
def fixed (x : Binary64) (places : Nat) : String :=
  let one := Nat.pow 10 places
  let (top, bottom) := scaled (x.mantissa * one) 1 (-x.exponent)
  let units := roundQuotient top bottom
  let fraction := Nat.toDigits 10 (units % one)
  toString (units / one) ++ "." ++
    String.ofList (List.replicate (places - fraction.length) '0' ++ fraction)

end Binary64

end VliwPack
