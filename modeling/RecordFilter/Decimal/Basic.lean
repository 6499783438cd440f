/-!
# Decimals

A decimal is a whole number of units of some power of ten. It is written in positional
notation, never with an exponent.

## Main definitions

* `Decimal`, with its value `Decimal.toRat`
* `Decimal.positional`: the digits of a decimal, with a point if it has places
-/

namespace RecordFilter

/-- The number `coefficient * 10 ^ exponent`. -/
structure Decimal where
  coefficient : Nat
  exponent : Int
  deriving DecidableEq, Repr

namespace Decimal

/-- The number that a decimal stands for. -/
def toRat (d : Decimal) : Rat := d.coefficient * (10 : Rat) ^ d.exponent

/-- The digits of a natural number, most significant first; zero has one digit. -/
def digits (n : Nat) : List Char := Nat.toDigits 10 n

/-- The last `places` digits of a number below `10 ^ places`, zeros in front included. -/
def paddedDigits (places n : Nat) : List Char := (digits n).leftpad places '0'

/-- Positional notation. A decimal with a negative exponent has a point and as many
places after it as the exponent says; any other is a plain whole number. -/
def positional (d : Decimal) : List Char :=
  if 0 ≤ d.exponent then
    digits (d.coefficient * Nat.pow 10 d.exponent.toNat)
  else
    let places := (-d.exponent).toNat
    let unit := Nat.pow 10 places
    digits (d.coefficient / unit) ++ '.' :: paddedDigits places (d.coefficient % unit)

end Decimal

end RecordFilter
