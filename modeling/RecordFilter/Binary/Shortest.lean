import RecordFilter.Binary.Rounding

/-!
# Shortest decimals

A finite number is written with the fewest decimal digits that read back as the number.
For each count of digits only two decimals need a test: the neighbours of the number on
the grid with that many digits. If the grid has any point that reads back, one of the two
does. Of two that read back the nearer is taken, and of two equally near the larger.

## Main definitions

* `Binary.shortest`: the shortest decimal of a finite number
* `Binary.text`: a number as text, infinities and values that are not numbers included
* `Binary.fixedText`: a finite number with a fixed number of places

## Main results

* `Binary.readsBack_of_candidate?`: what the search accepts reads back
-/

namespace RecordFilter

/-- The greatest `e` with `10 ^ e ≤ r`, for a positive `r`. -/
def decimalExponent (r : Rat) : Int :=
  let count (n : Nat) : Int := (Decimal.digits n).length
  floorExponent 10 (count r.num.natAbs - count r.den) r

namespace Binary

variable {F : Format}

/-- Whether the size of a number is the one that a decimal is rounded to. -/
def readsBack (x : Binary F) (d : Decimal) : Bool :=
  nearestMagnitude F d.toRat == x.magnitude

/-- The decimal with `count` digits that reads back, if there is one: of the number's two
neighbours on the grid, the nearer that does. A number just below a power of ten carries
over to that power, which is why no digits at all is a count too: on that grid the power
is the only neighbour above zero. -/
def candidate? (x : Binary F) (count : Nat) : Option Decimal :=
  let unit := decimalExponent x.absRat - (count - 1)
  let below := (x.absRat / (10 : Rat) ^ unit).floor.toNat
  let lower : Decimal := ⟨below, unit⟩
  let upper : Decimal := ⟨below + 1, unit⟩
  match x.readsBack lower, x.readsBack upper with
  | true, true =>
    -- at equal distances the comparison fails and the upper neighbour is taken
    some (if x.absRat - lower.toRat < upper.toRat - x.absRat then lower else upper)
  | true, false => some lower
  | false, true => some upper
  | false, false => none

/-- The decimal with the exact value of a finite number. Its least unit is a power of a
tenth wherever the binary one is a power of a half. -/
def exactDecimal (x : Binary F) : Decimal :=
  if 0 ≤ x.exponent then ⟨x.significand * Nat.pow 2 x.exponent.toNat, 0⟩
  else ⟨x.significand * Nat.pow 5 (-x.exponent).toNat, x.exponent⟩

/-- The shortest decimal that reads back as the size of a finite number. As many digits as
the format has bits are more than enough, so the exact value is never needed. -/
def shortest (x : Binary F) : Decimal :=
  if x.magnitude = 0 then ⟨0, 0⟩
  else ((List.range (F.precision + 1)).findSome? x.candidate?).getD x.exactDecimal

/-- The sign of a number, before its digits. -/
def signText (x : Binary F) : List Char := if x.negative then ['-'] else []

/-- A number as text. Finite numbers are in positional notation whatever their size, and
the sign of zero shows. A value that is not a number shows no sign. -/
def text (x : Binary F) : List Char :=
  if x.isNaN then ['N', 'a', 'N']
  else if x.isFinite then x.signText ++ x.shortest.positional
  else x.signText ++ ['i', 'n', 'f']

/-- A finite number rounded to `places` places after the point; a tie goes to the even
digit. -/
def fixedText (places : Nat) (x : Binary F) : List Char :=
  let units := (roundHalfEven (x.absRat * 10 ^ places)).toNat
  x.signText ++ Decimal.positional ⟨units, -places⟩

/-- What the search accepts reads back. -/
theorem readsBack_of_candidate? {x : Binary F} {count : Nat} {d : Decimal}
    (h : x.candidate? count = some d) : x.readsBack d = true := by
  simp only [candidate?] at h
  split at h
  · next lower upper =>
    split at h
    · exact Option.some.inj h ▸ lower
    · exact Option.some.inj h ▸ upper
  · next lower _ => exact Option.some.inj h ▸ lower
  · next _ upper => exact Option.some.inj h ▸ upper
  · cases h

end Binary

end RecordFilter
