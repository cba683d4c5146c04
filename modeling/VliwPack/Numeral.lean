/-! # Decimal numerals

A canonical numeral is a run of decimal digits without sign and without a
leading zero, `0` itself apart. Every natural number has exactly one.
-/

namespace VliwPack.Numeral

/-- The canonical numeral of a number. -/
def digits (n : Nat) : List Char := Nat.toDigits 10 n

/-- The number that digits spell, leading zeros allowed. -/
def value (digits : List Char) : Nat := Nat.ofDigitChars 10 digits 0

/-- Holds of canonical numerals. -/
def isCanonical : List Char → Bool
  | [] => false
  | [c] => c.isDigit
  | c :: rest => c != '0' && c.isDigit && rest.all Char.isDigit

/-- The number a canonical numeral spells; other texts spell none. -/
def read? (text : List Char) : Option Nat :=
  if isCanonical text then some (value text) else none

/-- The numeral of a number has that number as its value. -/
theorem value_digits (n : Nat) : value (digits n) = n :=
  Nat.ofDigitChars_toDigits (by decide) (by decide)

/-- A whole number is written as its magnitude's numeral, with a minus sign
before it when the number is negative. -/
def signed (n : Int) : List Char :=
  if n < 0 then '-' :: digits n.natAbs else digits n.natAbs

end VliwPack.Numeral
