import Mathlib.Algebra.Order.Field.Power
import Mathlib.Data.Rat.Floor
import Mathlib.Tactic.Linarith
import RecordFilter.Binary.Rounding

/-!
# Exact rounding

Rounding to a format changes nothing where nothing has to be given up. A number of the form
`n * 2 ^ unit`, where `n` fits into the significand and the unit is the one that the format
would choose, is rounded to the magnitude that stands for it. Every finite number of a format
has this form, so it is rounded to itself. Every finite number of single precision has this
form in double precision, too, after its significand has been shifted to the left end. This
is why single precision can be widened without loss: the value stays, and two numbers are
equal exactly if they are equal once widened.

## Main results

* `binaryExponent_eq`: the exponent of the leading bit
* `Binary.nearestMagnitude_of_fits`: numbers that fit are rounded exactly
* `Binary.nearestMagnitude_absRat`: numbers of a format are rounded to themselves
* `Binary.absRat_widen`: widening keeps the value
* `Binary.equal_widen`: widening keeps equality
-/

namespace RecordFilter

/-! ### The leading bit and whole numbers -/

theorem zpow_log2_le {n : Nat} (nonzero : n ≠ 0) : (2 : Rat) ^ (n.log2 : Int) ≤ n := by
  rw [zpow_natCast]
  exact_mod_cast Nat.log2_self_le nonzero

theorem lt_zpow_log2_succ (n : Nat) : (n : Rat) < (2 : Rat) ^ ((n.log2 : Int) + 1) := by
  have bound : n < 2 ^ (n.log2 + 1) := Nat.lt_log2_self
  rw [← Nat.cast_succ, zpow_natCast]
  exact_mod_cast bound

/-- Numerator and denominator are known up to a factor of two each, and so the quotient of
their leading bits is the leading bit of the number or twice as much. -/
theorem zpow_log2_quotient_bounds {r : Rat} (positive : 0 < r) :
    (2 : Rat) ^ ((r.num.natAbs.log2 : Int) - r.den.log2 - 1) < r ∧
      r < (2 : Rat) ^ ((r.num.natAbs.log2 : Int) - r.den.log2 + 1) := by
  have two : (2 : Rat) ≠ 0 := by norm_num
  have numPositive : 0 < r.num := Rat.num_pos.mpr positive
  have denPositive : (0 : Rat) < r.den := by exact_mod_cast r.den_pos
  have quotient : r = r.num.natAbs / r.den := by
    have size : (r.num.natAbs : Int) = r.num := Int.natAbs_of_nonneg numPositive.le
    rw [← Int.cast_natCast, size, Rat.num_div_den]
  have nonzero : r.num.natAbs ≠ 0 := by omega
  generalize r.num.natAbs = n at quotient nonzero ⊢
  have denNonzero : r.den ≠ 0 := r.den_nz
  generalize r.den = d at quotient denPositive denNonzero ⊢
  constructor
  · rw [quotient, lt_div_iff₀ denPositive]
    calc (2 : Rat) ^ ((n.log2 : Int) - d.log2 - 1) * d
        < 2 ^ ((n.log2 : Int) - d.log2 - 1) * 2 ^ ((d.log2 : Int) + 1) :=
          mul_lt_mul_of_pos_left (lt_zpow_log2_succ d) (zpow_pos (by norm_num) _)
      _ = 2 ^ (n.log2 : Int) := by rw [← zpow_add₀ two]; congr 1; omega
      _ ≤ n := zpow_log2_le nonzero
  · rw [quotient, div_lt_iff₀ denPositive]
    calc (n : Rat) < 2 ^ ((n.log2 : Int) + 1) := lt_zpow_log2_succ n
      _ = 2 ^ ((n.log2 : Int) - d.log2 + 1) * 2 ^ (d.log2 : Int) := by
          rw [← zpow_add₀ two]; congr 1; omega
      _ ≤ 2 ^ ((n.log2 : Int) - d.log2 + 1) * d :=
          mul_le_mul_of_nonneg_left (zpow_log2_le denNonzero) (zpow_nonneg (by norm_num) _)

/-- A number between two consecutive powers of two has the exponent of the lower one. -/
theorem binaryExponent_eq {r : Rat} {e : Int} (lower : (2 : Rat) ^ e ≤ r)
    (upper : r < (2 : Rat) ^ (e + 1)) : binaryExponent r = e := by
  have two : (1 : Rat) < 2 := by norm_num
  have positive : 0 < r := lt_of_lt_of_le (zpow_pos (by norm_num) e) lower
  obtain ⟨above, below⟩ := zpow_log2_quotient_bounds positive
  rw [binaryExponent, floorExponent]
  generalize (r.num.natAbs.log2 : Int) - r.den.log2 = guess at above below ⊢
  have guessLe : guess - 1 < e + 1 := (zpow_lt_zpow_iff_right₀ two).mp (above.trans upper)
  have leGuess : e < guess + 1 := (zpow_lt_zpow_iff_right₀ two).mp (lower.trans_lt below)
  -- the guess is right or too great by one, and then the test fails
  split
  · next reached =>
    have guessLt : guess < e + 1 := (zpow_lt_zpow_iff_right₀ two).mp (reached.trans_lt upper)
    omega
  · next missed =>
    have ne : guess ≠ e := by
      rintro rfl
      exact missed lower
    omega

theorem roundHalfEven_natCast (n : Nat) : roundHalfEven n = n := by
  have floor : (n : Rat).floor = n := by
    rw [← Int.cast_natCast]
    exact Rat.floor_intCast n
  unfold roundHalfEven
  rw [floor]
  simp

namespace Binary

variable {F : Format}

theorem Format.step_pos (F : Format) : 0 < F.step := Nat.pow_pos (by decide)

/-- The number `n * 2 ^ unit` can stand in the format as it is: `n` fits into the significand,
and the unit could be finer only if it were not the least one or if `n` had no leading bit. -/
structure Format.Fits (F : Format) (n : Nat) (unit : Int) : Prop where
  positive : 0 < n
  bounded : n < 2 * F.step
  least : F.leastExponent ≤ unit
  leading : F.step ≤ n ∨ unit = F.leastExponent

/-- The magnitude of a number that fits. -/
def Format.magnitudeOf (F : Format) (n : Nat) (unit : Int) : Nat :=
  (unit - F.leastExponent).toNat * F.step + n

/-- The unit of a number that fits is the one that rounding chooses. -/
theorem Format.Fits.unit_eq {n : Nat} {unit : Int} (fits : F.Fits n unit)
    (precise : 0 < F.precision) :
    max F.leastExponent (binaryExponent (n * (2 : Rat) ^ unit) - (F.precision - 1)) = unit := by
  obtain ⟨positive, bounded, least, leading⟩ := fits
  have nonzero : n ≠ 0 := by omega
  have two : (2 : Rat) ≠ 0 := by norm_num
  have unitPositive : (0 : Rat) < 2 ^ unit := zpow_pos (by norm_num) unit
  have exponent : binaryExponent (n * (2 : Rat) ^ unit) = n.log2 + unit := by
    refine binaryExponent_eq ?_ ?_
    · rw [zpow_add₀ two]
      exact mul_le_mul_of_nonneg_right (zpow_log2_le nonzero) unitPositive.le
    · rw [add_right_comm, zpow_add₀ two]
      exact mul_lt_mul_of_pos_right (lt_zpow_log2_succ n) unitPositive
  have step : F.step = 2 ^ (F.precision - 1) := rfl
  have notAbove : n.log2 ≤ F.precision - 1 := by
    have size : n < 2 ^ (F.precision - 1 + 1) := by rw [Nat.pow_succ]; omega
    have := (Nat.log2_lt nonzero).mpr size
    omega
  rw [exponent]
  rcases leading with leads | same
  · have reached : F.precision - 1 ≤ n.log2 := (Nat.le_log2 nonzero).mpr (step ▸ leads)
    omega
  · omega

/-- Numbers that fit are rounded exactly, unless they are too great to be finite. -/
theorem nearestMagnitude_of_fits {n : Nat} {unit : Int} (fits : F.Fits n unit)
    (precise : 0 < F.precision) :
    nearestMagnitude F (n * (2 : Rat) ^ unit) = min F.infinity (F.magnitudeOf n unit) := by
  have unitPositive : (0 : Rat) < 2 ^ unit := zpow_pos (by norm_num) unit
  have numberPositive : (0 : Rat) < n := by exact_mod_cast fits.positive
  have notZero : ¬ (n * (2 : Rat) ^ unit ≤ 0) := not_le.mpr (mul_pos numberPositive unitPositive)
  rw [nearestMagnitude, if_neg notZero]
  simp only [fits.unit_eq precise]
  rw [mul_div_cancel_right₀ _ unitPositive.ne', roundHalfEven_natCast, Int.toNat_natCast,
    Format.magnitudeOf]

/-- The magnitude of a number that fits stands for that number. -/
theorem absRat_of_fits {n : Nat} {unit : Int} {x : Binary F} (fits : F.Fits n unit)
    (same : x.magnitude = F.magnitudeOf n unit) : x.absRat = n * (2 : Rat) ^ unit := by
  obtain ⟨positive, bounded, least, leading⟩ := fits
  have step := F.step_pos
  rw [Format.magnitudeOf] at same
  have parts : x.significand = n ∧ x.exponent = unit := by
    unfold significand exponent
    rcases Nat.lt_or_ge n F.step with small | large
    · have unitEq : unit = F.leastExponent := leading.resolve_left (Nat.not_le.mpr small)
      have whole : x.magnitude = n := by
        rw [same, unitEq]
        simp
      rw [whole, if_pos small, Nat.div_eq_of_lt small]
      exact ⟨rfl, by omega⟩
    · obtain ⟨rest, rfl⟩ := Nat.exists_eq_add_of_le large
      have restBound : rest < F.step := by omega
      set units := (unit - F.leastExponent).toNat with hunits
      have shape : x.magnitude = rest + F.step * (units + 1) := by
        rw [same]
        ring
      have notSmall : ¬ x.magnitude < F.step := by
        rw [shape]
        have : F.step ≤ F.step * (units + 1) := Nat.le_mul_of_pos_right _ (Nat.succ_pos _)
        omega
      rw [if_neg notSmall, shape, Nat.add_mul_mod_self_left, Nat.mod_eq_of_lt restBound,
        Nat.add_mul_div_left _ _ step, Nat.div_eq_of_lt restBound]
      exact ⟨rfl, by omega⟩
  rw [absRat, parts.1, parts.2]

/-! ### Numbers of a format -/

/-- The significand and the unit of a number that is not zero fit, and they stand for the
number's own magnitude. -/
theorem fits_significand {x : Binary F} (nonzero : x.magnitude ≠ 0) :
    F.Fits x.significand x.exponent ∧ F.magnitudeOf x.significand x.exponent = x.magnitude := by
  have step := F.step_pos
  unfold Format.magnitudeOf significand exponent
  split
  · next small =>
    have units : x.magnitude / F.step = 0 := Nat.div_eq_of_lt small
    simp only [units]
    exact ⟨⟨by omega, by omega, by omega, .inr (by omega)⟩, by simp⟩
  · next large =>
    have remainder := Nat.mod_lt x.magnitude step
    have whole := Nat.div_add_mod x.magnitude F.step
    have units : 0 < x.magnitude / F.step := Nat.div_pos (Nat.not_lt.mp large) step
    obtain ⟨more, unitsEq⟩ := Nat.exists_eq_add_one.mpr units
    rw [unitsEq] at whole ⊢
    refine ⟨⟨by omega, by omega, by omega, .inl (by omega)⟩, ?_⟩
    have exponentEq : (F.leastExponent + (more + 1 - 1 : Nat) - F.leastExponent).toNat = more := by
      omega
    calc _ = F.step * (more + 1) + x.magnitude % F.step := by rw [exponentEq]; ring
      _ = x.magnitude := whole

theorem absRat_eq_zero {x : Binary F} (zero : x.magnitude = 0) : x.absRat = 0 := by
  have significandZero : x.significand = 0 := by
    rw [significand, zero, if_pos F.step_pos]
  rw [absRat, significandZero]
  simp

theorem nearestMagnitude_zero (F : Format) : nearestMagnitude F 0 = 0 := by
  rw [nearestMagnitude, if_pos le_rfl]

/-- Numbers of a format are rounded to themselves. -/
theorem nearestMagnitude_absRat {x : Binary F} (precise : 0 < F.precision)
    (finite : x.isFinite = true) : nearestMagnitude F x.absRat = x.magnitude := by
  by_cases zero : x.magnitude = 0
  · rw [absRat_eq_zero zero, nearestMagnitude_zero, zero]
  · obtain ⟨fits, same⟩ := fits_significand zero
    have below : x.magnitude ≤ F.infinity := (of_decide_eq_true finite).le
    rw [absRat, nearestMagnitude_of_fits fits precise, same, Nat.min_eq_right below]

/-! ### Widening -/

/-- What fits in single precision fits in double precision once its leading bit has been
shifted to the left end of the wider significand. -/
theorem fits_double_of_fits_single {n : Nat} {unit : Int} (fits : Format.single.Fits n unit) :
    Format.double.Fits (n * 2 ^ (52 - n.log2)) (unit - (52 - n.log2 : Nat)) := by
  obtain ⟨positive, bounded, least, -⟩ := fits
  have nonzero : n ≠ 0 := by omega
  have singleStep : Format.single.step = 2 ^ 23 := rfl
  have doubleStep : Format.double.step = 2 ^ 52 := rfl
  have singleLeast : Format.single.leastExponent = -149 := by decide
  have doubleLeast : Format.double.leastExponent = -1074 := by decide
  have logBound : n.log2 < 24 := (Nat.log2_lt nonzero).mpr (by omega)
  have shifted : 2 ^ n.log2 * 2 ^ (52 - n.log2) = 2 ^ 52 := by
    rw [← Nat.pow_add]
    congr 1
    omega
  have shiftPositive : 0 < 2 ^ (52 - n.log2) := Nat.two_pow_pos _
  have lower : 2 ^ n.log2 * 2 ^ (52 - n.log2) ≤ n * 2 ^ (52 - n.log2) :=
    Nat.mul_le_mul_right _ (Nat.log2_self_le nonzero)
  have upper : n * 2 ^ (52 - n.log2) < 2 ^ (n.log2 + 1) * 2 ^ (52 - n.log2) :=
    Nat.mul_lt_mul_of_pos_right Nat.lt_log2_self shiftPositive
  rw [Nat.pow_succ, Nat.mul_right_comm] at upper
  rw [shifted] at lower upper
  refine ⟨Nat.mul_pos positive shiftPositive, ?_, ?_, .inl ?_⟩
  · omega
  · omega
  · omega

/-- The greatest finite number of single precision is far from infinity in double precision. -/
theorem magnitudeOf_lt_infinity {n : Nat} {unit : Int} (bounded : n < 2 * Format.double.step)
    (small : unit ≤ 104) : Format.double.magnitudeOf n unit < Format.double.infinity := by
  have doubleStep : Format.double.step = 2 ^ 52 := rfl
  have doubleInfinity : Format.double.infinity = 2047 * 2 ^ 52 := rfl
  have doubleLeast : Format.double.leastExponent = -1074 := by decide
  rw [Format.magnitudeOf, doubleInfinity, doubleStep]
  have units : (unit - Format.double.leastExponent).toNat ≤ 1178 := by omega
  have := Nat.mul_le_mul_right (2 ^ 52) units
  omega

theorem exponent_le_of_isFinite {x : Binary .single} (finite : x.isFinite = true) :
    x.exponent ≤ 104 := by
  have below : x.magnitude < 255 * 2 ^ 23 := of_decide_eq_true finite
  have singleStep : Format.single.step = 2 ^ 23 := rfl
  have singleLeast : Format.single.leastExponent = -149 := by decide
  rw [exponent, singleStep, singleLeast]
  omega

theorem isNaN_eq_false_of_isFinite {x : Binary F} (finite : x.isFinite = true) :
    x.isNaN = false := by
  have below : x.magnitude < F.infinity := of_decide_eq_true finite
  exact decide_eq_false (by omega)

theorem magnitude_widen_of_isFinite {x : Binary .single} (finite : x.isFinite = true) :
    x.widen.magnitude = nearestMagnitude .double x.absRat := by
  rw [widen, isNaN_eq_false_of_isFinite finite, finite]
  rfl

/-- Widening keeps the value of a number. -/
theorem absRat_widen {x : Binary .single} (finite : x.isFinite = true) :
    x.widen.isFinite = true ∧ x.widen.absRat = x.absRat := by
  have whole := magnitude_widen_of_isFinite finite
  by_cases zero : x.magnitude = 0
  · rw [absRat_eq_zero zero, nearestMagnitude_zero] at whole
    rw [absRat_eq_zero whole, absRat_eq_zero zero, isFinite, whole]
    exact ⟨by decide, rfl⟩
  · obtain ⟨fits, -⟩ := fits_significand zero
    have wide := fits_double_of_fits_single fits
    set shift := 52 - x.significand.log2
    have value : x.absRat =
        (x.significand * 2 ^ shift : Nat) * (2 : Rat) ^ (x.exponent - (shift : Nat)) := by
      rw [absRat, zpow_sub₀ (by norm_num), zpow_natCast]
      push_cast
      field_simp
    have below : Format.double.magnitudeOf (x.significand * 2 ^ shift)
        (x.exponent - (shift : Nat)) < Format.double.infinity := by
      have small := exponent_le_of_isFinite finite
      exact magnitudeOf_lt_infinity wide.bounded (by omega)
    rw [value, nearestMagnitude_of_fits wide (by decide), Nat.min_eq_right below.le] at whole
    refine ⟨?_, ?_⟩
    · rw [isFinite, whole]
      exact decide_eq_true below
    · rw [absRat_of_fits wide whole, value]

theorem negative_widen (x : Binary .single) : x.widen.negative = x.negative := by
  unfold widen
  split
  · rfl
  · split <;> rfl

/-- What is not a number stays none, and a number stays one. -/
theorem isNaN_widen (x : Binary .single) : x.widen.isNaN = x.isNaN := by
  cases nan : x.isNaN with
  | true =>
    have above : 255 * 2 ^ 23 < x.magnitude := of_decide_eq_true nan
    have below : x.magnitude < 256 * 2 ^ 23 := x.magnitude_lt
    have singleInfinity : Format.single.infinity = 255 * 2 ^ 23 := rfl
    rw [isNaN, widen, if_pos nan]
    refine decide_eq_true (Nat.lt_add_of_pos_right (Nat.mul_pos ?_ (by decide)))
    simp only [Nat.pow_eq, singleInfinity]
    split <;> omega
  | false =>
    cases finite : x.isFinite with
    | true => exact isNaN_eq_false_of_isFinite (absRat_widen finite).1
    | false =>
      rw [isNaN, widen, nan, finite]
      exact decide_eq_false (Nat.lt_irrefl _)

/-- A value that is neither finite nor no number is infinite. -/
theorem magnitude_eq_infinity {x : Binary F} (number : x.isNaN = false)
    (infinite : x.isFinite = false) : x.magnitude = F.infinity := by
  have notAbove := of_decide_eq_false number
  have notBelow := of_decide_eq_false infinite
  omega

theorem magnitude_widen_of_infinite {x : Binary .single} (number : x.isNaN = false)
    (infinite : x.isFinite = false) : x.widen.magnitude = Format.double.infinity := by
  rw [widen, number, infinite]
  rfl

theorem absRat_congr {x y : Binary F} (same : x.magnitude = y.magnitude) :
    x.absRat = y.absRat := by
  simp only [absRat, significand, exponent, same]

/-- Widening takes different magnitudes of numbers to different magnitudes. -/
theorem magnitude_widen_inj {x y : Binary .single} (xNumber : x.isNaN = false)
    (yNumber : y.isNaN = false) :
    x.widen.magnitude = y.widen.magnitude ↔ x.magnitude = y.magnitude := by
  have precise : 0 < Format.single.precision := by decide
  cases xFinite : x.isFinite with
  | true =>
    obtain ⟨xWide, xValue⟩ := absRat_widen xFinite
    cases yFinite : y.isFinite with
    | true =>
      obtain ⟨-, yValue⟩ := absRat_widen yFinite
      constructor
      · intro same
        have value : x.absRat = y.absRat := by rw [← xValue, ← yValue, absRat_congr same]
        rw [← nearestMagnitude_absRat precise xFinite, value,
          nearestMagnitude_absRat precise yFinite]
      · intro same
        rw [magnitude_widen_of_isFinite xFinite, magnitude_widen_of_isFinite yFinite,
          absRat_congr same]
    | false =>
      have before : x.magnitude < Format.single.infinity := of_decide_eq_true xFinite
      have after : x.widen.magnitude < Format.double.infinity := of_decide_eq_true xWide
      rw [magnitude_widen_of_infinite yNumber yFinite, magnitude_eq_infinity yNumber yFinite]
      exact iff_of_false after.ne before.ne
  | false =>
    rw [magnitude_widen_of_infinite xNumber xFinite, magnitude_eq_infinity xNumber xFinite]
    cases yFinite : y.isFinite with
    | true =>
      have before : y.magnitude < Format.single.infinity := of_decide_eq_true yFinite
      have after : y.widen.magnitude < Format.double.infinity :=
        of_decide_eq_true (absRat_widen yFinite).1
      exact iff_of_false after.ne' before.ne'
    | false =>
      rw [magnitude_widen_of_infinite yNumber yFinite, magnitude_eq_infinity yNumber yFinite]
      exact iff_of_true rfl rfl

/-- Numbers have one place exactly if they have one size and, unless they are zero, one
sign. -/
theorem place_eq_place_iff {x y : Binary F} :
    x.place = y.place ↔
      x.magnitude = y.magnitude ∧ (x.magnitude = 0 ∨ x.negative = y.negative) := by
  unfold place
  cases x.negative <;> cases y.negative <;> simp <;> omega

theorem place_widen_inj {x y : Binary .single} (xNumber : x.isNaN = false)
    (yNumber : y.isNaN = false) : x.widen.place = y.widen.place ↔ x.place = y.place := by
  let zero : Binary .single := ⟨false, 0, Format.magnitudes_pos _⟩
  have zeroWide : zero.widen.magnitude = 0 := by
    rw [magnitude_widen_of_isFinite (by decide), absRat_eq_zero rfl, nearestMagnitude_zero]
  have zeroIff : x.widen.magnitude = 0 ↔ x.magnitude = 0 := by
    have inj := magnitude_widen_inj (y := zero) xNumber (by decide)
    rwa [zeroWide] at inj
  rw [place_eq_place_iff, place_eq_place_iff, magnitude_widen_inj xNumber yNumber, zeroIff,
    negative_widen, negative_widen]

/-- Widening keeps equality, the two zeros and values that are not numbers included. -/
theorem equal_widen (x y : Binary .single) : x.widen.equal y.widen = x.equal y := by
  unfold equal
  rw [isNaN_widen, isNaN_widen]
  cases xNumber : x.isNaN with
  | true => rfl
  | false =>
    cases yNumber : y.isNaN with
    | true => rfl
    | false =>
      rw [Bool.eq_iff_iff]
      simpa using place_widen_inj xNumber yNumber

end Binary

end RecordFilter
