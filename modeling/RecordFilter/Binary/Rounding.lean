import RecordFilter.Binary.Basic
import RecordFilter.Decimal.Numeral

/-!
# Rounding to a format

The number of a format that is nearest to a rational number; of two equally near ones,
the one with an even significand. Numbers beyond the largest finite one go to infinity,
numbers close to zero go to zero.

## Main definitions

* `roundHalfEven`: the nearest whole number, ties to even
* `Binary.nearestMagnitude`: rounding of a nonnegative rational number
* `Binary.ofNumeral`: the number that a numeral denotes
* `Binary.widen`: single precision as double precision
-/

namespace RecordFilter

/-- The whole number nearest to `r`; a tie goes to the even neighbour. -/
def roundHalfEven (r : Rat) : Int :=
  let below := r.floor
  let rest := r - below
  if rest < 1 / 2 then below
  else if 1 / 2 < rest then below + 1
  else if below % 2 = 0 then below
  else below + 1

/-- The greatest `e` with `base ^ e ≤ r`, given a guess that is that number or the next. -/
def floorExponent (base : Nat) (guess : Int) (r : Rat) : Int :=
  if (base : Rat) ^ guess ≤ r then guess else guess - 1

/-- The greatest `e` with `2 ^ e ≤ r`, for a positive `r`. -/
def binaryExponent (r : Rat) : Int :=
  floorExponent 2 (r.num.natAbs.log2 - r.den.log2) r

namespace Binary

/-- The magnitude of the number of the format that is nearest to `r`, where `r` is not
negative. The least unit is the one that leaves `precision` significant bits, or the
format's least unit if that is coarser. A significand that rounds up to the next power
of two carries into the exponent field by itself. -/
def nearestMagnitude (F : Format) (r : Rat) : Nat :=
  if r ≤ 0 then 0
  else
    let unit := max F.leastExponent (binaryExponent r - (F.precision - 1))
    let significand := (roundHalfEven (r / (2 : Rat) ^ unit)).toNat
    min F.infinity ((unit - F.leastExponent).toNat * F.step + significand)

theorem Format.infinity_lt_magnitudes (F : Format) : F.infinity < F.magnitudes :=
  Nat.mul_lt_mul_of_pos_right (Nat.sub_lt (Nat.pow_pos (by decide)) (by decide))
    (Nat.pow_pos (by decide))

theorem nearestMagnitude_le (F : Format) (r : Rat) : nearestMagnitude F r ≤ F.infinity := by
  unfold nearestMagnitude
  split
  · exact Nat.zero_le _
  · exact Nat.min_le_left _ _

/-- The number of the format nearest to a decimal with a sign. -/
def nearest (F : Format) (negative : Bool) (size : Rat) : Binary F where
  negative := negative
  magnitude := nearestMagnitude F size
  magnitude_lt := Nat.lt_of_le_of_lt (nearestMagnitude_le F size) F.infinity_lt_magnitudes

/-- The number that a numeral denotes, correctly rounded. A minus sign before zero gives
the negative zero. -/
def ofNumeral (F : Format) (n : Numeral) : Binary F :=
  nearest F n.negative n.toDecimal.toRat

/-- A single-precision number as a double-precision one. Finite numbers and infinities
keep their value. A value that is not a number keeps its sign and payload, and the
leading bit of the payload is set. -/
def widen (x : Binary .single) : Binary .double :=
  if x.isNaN then
    let payload := x.magnitude - Format.single.infinity
    let quiet := if payload < Nat.pow 2 22 then payload + Nat.pow 2 22 else payload
    ⟨x.negative, Format.double.infinity + quiet % Nat.pow 2 23 * Nat.pow 2 29, by
      have bound := Nat.mod_lt quiet (show 0 < Nat.pow 2 23 by decide)
      simp only [Format.double, Format.infinity, Format.magnitudes, Format.step,
        Nat.pow_eq] at bound ⊢
      omega⟩
  else if x.isFinite then nearest .double x.negative x.absRat
  else ⟨x.negative, Format.double.infinity, Format.infinity_lt_magnitudes _⟩

end Binary

end RecordFilter
