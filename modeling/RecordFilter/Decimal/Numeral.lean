import RecordFilter.Decimal.Basic

/-!
# Numerals

A numeral is a number as it is written: an optional sign, digits, and possibly a point
followed by more digits.

## Main definitions

* `Numeral`, read from its characters by `Numeral.read?`
* `Numeral.toInt?`: the integer that a numeral without a point denotes
* `Numeral.toDecimal`: the decimal that the digits denote, without the sign
-/

namespace RecordFilter

/-- A written number. The sign is kept apart from the digits, so that a negative zero
is not lost. -/
structure Numeral where
  negative : Bool
  whole : List Char
  fraction : Option (List Char)
  deriving DecidableEq, Repr

namespace Numeral

/-- The number that a row of decimal digits denotes. -/
def digitsValue (ds : List Char) : Nat :=
  ds.foldl (fun n c => 10 * n + (c.toNat - '0'.toNat)) 0

/-- Reads a numeral without a sign. -/
def readUnsigned? (negative : Bool) (cs : List Char) : Option Numeral :=
  let whole := cs.takeWhile Char.isDigit
  if whole.isEmpty then none
  else match cs.dropWhile Char.isDigit with
    | [] => some ⟨negative, whole, none⟩
    | '.' :: fraction =>
      if !fraction.isEmpty && fraction.all Char.isDigit then
        some ⟨negative, whole, some fraction⟩
      else none
    | _ => none

/-- Reads a numeral. A plus sign says nothing. -/
def read? : List Char → Option Numeral
  | '-' :: rest => readUnsigned? true rest
  | '+' :: rest => readUnsigned? false rest
  | cs => readUnsigned? false cs

/-- The integer that a numeral without a point denotes. -/
def toInt? (n : Numeral) : Option Int :=
  match n.fraction with
  | some _ => none
  | none =>
    let size : Int := digitsValue n.whole
    some (if n.negative then -size else size)

/-- The decimal that the digits denote: each place after the point divides by ten. -/
def toDecimal (n : Numeral) : Decimal :=
  let fraction := n.fraction.getD []
  ⟨digitsValue (n.whole ++ fraction), -fraction.length⟩

end Numeral

end RecordFilter
