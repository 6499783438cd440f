/-!
# Binary floating-point numbers

Numbers of an interchange format, held as a sign and a magnitude. The magnitude is the
bit pattern below the sign bit, read as a natural number. Patterns in increasing order
stand for increasing numbers, then for infinity, then for the values that are not
numbers, so both order and equality are read off the patterns.

## Main definitions

* `Binary.Format`: the precision and the exponent width of a format
* `Binary F`: the numbers of format `F`, with `Binary.ofBits` and `Binary.toBits`
* `Binary.order?`, `Binary.equal`: order and equality of numbers
* `Binary.absRat`: the size of a finite number

## Main results

* `Binary.order?_eq_none_iff`: only values that are not numbers lack an order
* `Binary.toBits_ofBits`: a number keeps all the bits that it was made from
-/

namespace RecordFilter

namespace Binary

/-- A binary interchange format. -/
structure Format where
  /-- The number of significant bits, the leading one included. -/
  precision : Nat
  /-- The number of bits of the exponent field. -/
  exponentBits : Nat
  deriving DecidableEq, Repr

namespace Format

/-- Single precision, 32 bits. -/
def single : Format := ⟨24, 8⟩

/-- Double precision, 64 bits. -/
def double : Format := ⟨53, 11⟩

/-- The number of magnitudes that share one exponent field. -/
def step (F : Format) : Nat := Nat.pow 2 (F.precision - 1)

/-- The number of magnitudes. -/
def magnitudes (F : Format) : Nat := Nat.pow 2 F.exponentBits * F.step

/-- The magnitude of infinity: every bit of the exponent field is set, no other. -/
def infinity (F : Format) : Nat := (Nat.pow 2 F.exponentBits - 1) * F.step

/-- The exponent of the least positive number. -/
def leastExponent (F : Format) : Int :=
  3 - Nat.pow 2 (F.exponentBits - 1) - F.precision

end Format

end Binary

/-- A number of format `F`: a sign and a bit pattern below it. -/
structure Binary (F : Binary.Format) where
  negative : Bool
  magnitude : Nat
  magnitude_lt : magnitude < F.magnitudes
  deriving DecidableEq, Repr

namespace Binary

variable {F : Format}

theorem Format.magnitudes_pos (F : Format) : 0 < F.magnitudes :=
  Nat.mul_pos (Nat.pow_pos (by decide)) (Nat.pow_pos (by decide))

/-- The number with the given bits; bits beyond the format's width are dropped. -/
def ofBits (F : Format) (bits : Nat) : Binary F where
  negative := bits / F.magnitudes % 2 == 1
  magnitude := bits % F.magnitudes
  magnitude_lt := Nat.mod_lt _ F.magnitudes_pos

/-- The bits of a number, the sign first. -/
def toBits (x : Binary F) : Nat :=
  (if x.negative then F.magnitudes else 0) + x.magnitude

/-- Values above infinity are not numbers. -/
def isNaN (x : Binary F) : Bool := F.infinity < x.magnitude

/-- Values below infinity are finite. -/
def isFinite (x : Binary F) : Bool := x.magnitude < F.infinity

/-- The place of a number on the line. Both zeros have place zero. -/
def place (x : Binary F) : Int :=
  if x.negative then -x.magnitude else x.magnitude

/-- The order of two values, if both are numbers. -/
def order? (x y : Binary F) : Option Ordering :=
  if x.isNaN || y.isNaN then none else some (compare x.place y.place)

/-- Equality of numbers: the two zeros are equal, and a value that is not a number
equals nothing. -/
def equal (x y : Binary F) : Bool :=
  !x.isNaN && !y.isNaN && x.place == y.place

/-- The significand of a finite number, as a whole number of its least unit. Below the
first power of two of the format there is no leading bit. -/
def significand (x : Binary F) : Nat :=
  if x.magnitude < F.step then x.magnitude else F.step + x.magnitude % F.step

/-- The exponent of the least unit of a finite number. -/
def exponent (x : Binary F) : Int :=
  F.leastExponent + (x.magnitude / F.step - 1 : Nat)

/-- The size of a finite number. -/
def absRat (x : Binary F) : Rat := x.significand * (2 : Rat) ^ x.exponent

theorem order?_eq_none_iff (x y : Binary F) :
    x.order? y = none ↔ x.isNaN = true ∨ y.isNaN = true := by
  cases hx : x.isNaN <;> simp [order?, hx]

theorem toBits_ofBits {bits : Nat} (h : bits < 2 * F.magnitudes) :
    (ofBits F bits).toBits = bits := by
  have quotient : bits / F.magnitudes < 2 := (Nat.div_lt_iff_lt_mul F.magnitudes_pos).mpr h
  have split := Nat.div_add_mod bits F.magnitudes
  rcases Nat.le_one_iff_eq_zero_or_eq_one.mp (Nat.le_of_lt_succ quotient) with unset | set
  · rw [unset] at split
    simp only [toBits, ofBits, unset]
    simpa using split
  · rw [set, Nat.mul_one] at split
    simpa [toBits, ofBits, set] using split

end Binary

end RecordFilter
