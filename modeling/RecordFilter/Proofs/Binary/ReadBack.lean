import Mathlib.Tactic.Ring
import RecordFilter.Binary.Shortest
import RecordFilter.Printing.Dialect
import RecordFilter.Proofs.Binary.Exactness
import RecordFilter.Proofs.Expression.Literal

/-!
# Numbers read back

A printed number denotes itself, sign and all. The search for the fewest digits accepts only
decimals that round to the number, and the exact value that stands in for a failed search
rounds to it as well. Positional notation keeps the value of a decimal, and so does the point
that is added where there is none.

## Main definitions

* `Numeral.ofDecimal`: a decimal as a numeral with a point
* `Numeral.ofInt`: an integer as a numeral

## Main results

* `Numeral.toRat_ofDecimal`: the numeral has the value of the decimal
* `Binary.nearestMagnitude_shortest`: the shortest decimal rounds to the number
* `Binary.exists_ofNumeral_eq`: a printed number with its point denotes the number
-/

namespace RecordFilter

open Decimal (digits paddedDigits)

namespace Numeral

/-! ### Digits -/

theorem digits_digits (n : Nat) : Digits (digits n) :=
  ⟨Nat.toDigits_ne_nil, fun _ => Nat.isDigit_of_mem_toDigits (by decide) (by decide)⟩

theorem digitsValue_digits (n : Nat) : digitsValue (digits n) = n :=
  Nat.ofDigitChars_toDigits (by decide) (by decide)

theorem digitsValue_append (ds es : List Char) :
    digitsValue (ds ++ es) = 10 ^ es.length * digitsValue ds + digitsValue es :=
  (Nat.ofDigitChars_append 0).trans Nat.ofDigitChars_eq_ofDigitChars_zero

variable {places n : Nat}

/-- Zeros in front of digits do not count. -/
theorem digitsValue_paddedDigits (places n : Nat) : digitsValue (paddedDigits places n) = n := by
  have zeros (k : Nat) : digitsValue (List.replicate k '0') = 0 := Nat.ofDigitChars_replicate_zero
  rw [paddedDigits, List.leftpad, digitsValue_append, digitsValue_digits, zeros, Nat.mul_zero,
    Nat.zero_add]

theorem digits_paddedDigits (places n : Nat) : Digits (paddedDigits places n) := by
  obtain ⟨nonempty, all⟩ := digits_digits n
  refine ⟨by simp [paddedDigits, List.leftpad, nonempty], ?_⟩
  intro c member
  rcases List.mem_append.mp member with zero | digit
  · rw [List.eq_of_mem_replicate zero]
    decide
  · exact all c digit

/-- A number below `10 ^ places` is padded to exactly as many digits. -/
theorem length_paddedDigits (positive : 0 < places) (small : n < 10 ^ places) :
    (paddedDigits places n).length = places := by
  have few : (digits n).length ≤ places :=
    (Nat.length_toDigits_le_iff (by decide) positive).mpr small
  rw [paddedDigits, List.length_leftpad, Nat.max_eq_left few]

/-! ### Decimals -/

/-- The characters of a sign, where only a minus sign is written. -/
def signChars (negative : Bool) : List Char := if negative then ['-'] else []

theorem sign_signChars (negative : Bool) : Sign negative (signChars negative) := by
  cases negative with
  | true => exact .minus
  | false => exact .absent

/-- A decimal with a sign, as it is written with at least one place after the point. -/
def ofDecimal (negative : Bool) (d : Decimal) : Numeral :=
  if 0 ≤ d.exponent then
    ⟨negative, digits (d.coefficient * Nat.pow 10 d.exponent.toNat), some ['0']⟩
  else
    let places := (-d.exponent).toNat
    let unit := Nat.pow 10 places
    ⟨negative, digits (d.coefficient / unit), some (paddedDigits places (d.coefficient % unit))⟩

variable {negative : Bool} {d : Decimal}

theorem negative_ofDecimal : (ofDecimal negative d).negative = negative := by
  unfold ofDecimal
  split <;> rfl

theorem isSome_fraction_ofDecimal : (ofDecimal negative d).fraction.isSome = true := by
  unfold ofDecimal
  split <;> rfl

/-- Neither the point nor zeros change the value. -/
theorem toRat_ofDecimal : (ofDecimal negative d).toDecimal.toRat = d.toRat := by
  obtain ⟨coefficient, exponent⟩ := d
  unfold ofDecimal
  dsimp only
  split
  · next whole =>
    -- the zero behind the point makes the digits ten times as much, and counts for a tenth
    have value : digitsValue (digits (coefficient * Nat.pow 10 exponent.toNat) ++ ['0']) =
        10 * (coefficient * Nat.pow 10 exponent.toNat) := by
      rw [digitsValue_append, digitsValue_digits]
      rfl
    have power : (10 : Rat) ^ exponent = 10 ^ exponent.toNat := by
      rw [← zpow_natCast, Int.toNat_of_nonneg whole]
    simp only [toDecimal, Decimal.toRat, Option.getD_some, value, power]
    norm_num
    ring
  · next part =>
    obtain ⟨places, rfl⟩ : ∃ places : Nat, exponent = -places :=
      ⟨exponent.natAbs, by omega⟩
    have positive : 0 < places := by omega
    have small : coefficient % Nat.pow 10 places < 10 ^ places :=
      Nat.mod_lt _ (Nat.pow_pos (by decide))
    simp only [toDecimal, Decimal.toRat, Option.getD_some, neg_neg, Int.toNat_natCast,
      length_paddedDigits positive small, digitsValue_append, digitsValue_digits,
      digitsValue_paddedDigits]
    have whole : 10 ^ places * (coefficient / Nat.pow 10 places) + coefficient % Nat.pow 10 places =
        coefficient := Nat.div_add_mod _ _
    rw [whole]

/-- In positional notation a point stands exactly before places. -/
theorem mem_point_positional_iff : '.' ∈ d.positional ↔ d.exponent < 0 := by
  have noPoint (n : Nat) : '.' ∉ digits n := fun member =>
    absurd ((digits_digits n).2 _ member) (by decide)
  unfold Decimal.positional
  split
  · next whole => simp [noPoint, whole]
  · next part => simpa using part

/-- Positional notation spells the decimal, once a point is added where there is none. -/
theorem spelled_ofDecimal :
    (ofDecimal negative d).Spelled
      (Dialect.withPoint (signChars negative ++ d.positional)) := by
  have noPoint : '.' ∉ signChars negative := by cases negative <;> decide
  have point : (signChars negative ++ d.positional).contains '.' = true ↔ d.exponent < 0 := by
    rw [List.contains_iff_mem, List.mem_append, mem_point_positional_iff]
    exact or_iff_right noPoint
  unfold ofDecimal
  by_cases part : d.exponent < 0
  · rw [Dialect.withPoint, if_pos (point.mpr part), Decimal.positional, if_neg (not_le.mpr part),
      if_neg (not_le.mpr part)]
    refine .intro (sign_signChars negative) (digits_digits _) ?_
    rintro ds ⟨rfl⟩
    exact digits_paddedDigits _ _
  · rw [Dialect.withPoint, if_neg (mt point.mp part), Decimal.positional,
      if_pos (not_lt.mp part), if_pos (not_lt.mp part), List.append_assoc]
    refine @Spelled.intro _ _ _ (some ['0']) (sign_signChars negative) (digits_digits _) ?_
    rintro ds ⟨rfl⟩
    exact digits_digits 0

/-! ### Integers -/

/-- An integer with a sign if it is negative. -/
def ofInt (i : Int) : Numeral := ⟨decide (i < 0), digits i.natAbs, none⟩

theorem toInt?_ofInt (i : Int) : (ofInt i).toInt? = some i := by
  simp only [ofInt, toInt?, digitsValue_digits, decide_eq_true_eq]
  split <;> simp only [Option.some.injEq] <;> omega

theorem toList_toString (i : Int) :
    (toString i).toList = signChars (decide (i < 0)) ++ digits i.natAbs := by
  cases i with
  | ofNat n =>
    have shown : toString (Int.ofNat n) = String.ofList (digits n) :=
      Nat.toString_eq_ofList_toDigits
    rw [shown, String.toList_ofList]
    rfl
  | negSucc n =>
    have shown : toString (Int.negSucc n) = "-" ++ String.ofList (digits (n + 1)) := by
      rw [digits, ← Nat.toString_eq_ofList_toDigits]
      rfl
    have negative : decide (Int.negSucc n < 0) = true := decide_eq_true (Int.negSucc_lt_zero n)
    rw [shown, String.toList_append, negative, String.toList_ofList (l := digits (n + 1))]
    rfl

theorem spelled_ofInt (i : Int) : (ofInt i).Spelled (toString i).toList := by
  rw [toList_toString, ← List.append_nil (digits i.natAbs)]
  exact @Spelled.intro _ _ _ none (sign_signChars _) (digits_digits _) (by simp)

end Numeral

/-! ### Binary numbers -/

namespace Binary

variable {F : Format} {x : Binary F}

/-- The exact decimal of a finite number has its value. -/
theorem toRat_exactDecimal : x.exactDecimal.toRat = x.absRat := by
  unfold exactDecimal absRat
  split
  · next whole =>
    have power : (2 : Rat) ^ x.exponent = 2 ^ x.exponent.toNat := by
      rw [← zpow_natCast, Int.toNat_of_nonneg whole]
    simp [Decimal.toRat, power]
  · next part =>
    obtain ⟨places, same⟩ : ∃ places : Nat, x.exponent = -places :=
      ⟨x.exponent.natAbs, by omega⟩
    have half : (5 : Rat) ^ places * ((10 : Rat) ^ places)⁻¹ = ((2 : Rat) ^ places)⁻¹ := by
      rw [show (10 : Rat) = 5 * 2 by norm_num, mul_pow, mul_inv, mul_inv_cancel_left₀]
      positivity
    rw [same]
    simp only [Decimal.toRat, neg_neg, Int.toNat_natCast, Nat.cast_mul, Nat.pow_eq, Nat.cast_pow,
      Nat.cast_ofNat, zpow_neg, zpow_natCast, mul_assoc, half]

/-- The shortest decimal of a finite number rounds to the number, whether the search for it
succeeds or not. -/
theorem nearestMagnitude_shortest (precise : 0 < F.precision) (finite : x.isFinite = true) :
    nearestMagnitude F x.shortest.toRat = x.magnitude := by
  unfold shortest
  split
  · next zero =>
    have value : Decimal.toRat ⟨0, 0⟩ = 0 := by simp [Decimal.toRat]
    rw [value, nearestMagnitude_zero, zero]
  · cases found : (List.range (F.precision + 1)).findSome? x.candidate? with
    | some d =>
      obtain ⟨count, -, accepted⟩ := List.exists_of_findSome?_eq_some found
      exact eq_of_beq (readsBack_of_candidate? accepted)
    | none =>
      rw [Option.getD_none, toRat_exactDecimal]
      exact nearestMagnitude_absRat precise finite

/-- The text of a finite number, with a point, is spelled as a numeral that denotes the
number. -/
theorem exists_ofNumeral_eq (precise : 0 < F.precision) (finite : x.isFinite = true) :
    ∃ n : Numeral, n.Spelled (Dialect.withPoint x.text) ∧ n.fraction.isSome = true ∧
      ofNumeral F n = x := by
  have shown : x.text = Numeral.signChars x.negative ++ x.shortest.positional := by
    rw [text, isNaN_eq_false_of_isFinite finite, finite]
    rfl
  refine ⟨.ofDecimal x.negative x.shortest, ?_, Numeral.isSome_fraction_ofDecimal, ?_⟩
  · rw [shown]
    exact Numeral.spelled_ofDecimal
  · have same := nearestMagnitude_shortest precise finite
    obtain ⟨negative, magnitude, bound⟩ := x
    simp only [ofNumeral, nearest, Numeral.negative_ofDecimal, Numeral.toRat_ofDecimal]
    congr 1

end Binary

end RecordFilter
