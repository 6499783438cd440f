import RecordFilter.Pattern.Basic
import RecordFilter.Proofs.Binary.Exactness
import RecordFilter.Proofs.Condition.Combinators
import RecordFilter.Proofs.Expression.Parsing

/-!
# Membership

Membership in a list is decided by keys, but it is what equality says it is: a value is a
member exactly if it equals some value of the list. Keys of single precision are taken in
double precision, which changes nothing because widening keeps equality. The two zeros have
one key and are equal; a value that is not a number has no key and equals nothing.

So a membership condition is an abbreviation. It has the outcome of the disjunction of
equalities on every record, errors included, and absence has the outcome of the conjunction
of inequalities.

## Main results

* `Binary.exists_key?_iff`, `Value.exists_key?_iff`: a common key means equality
* `ValueSet.contains_eq_true_iff`: members are the values that equal some value of the list
* `Condition.eval_membership`: membership as equalities, absence as inequalities
-/

namespace RecordFilter

/-! ### Keys -/

namespace Binary

variable {F : Format}

theorem toBits_eq_iff {x y : Binary F} :
    x.toBits = y.toBits ↔ x.negative = y.negative ∧ x.magnitude = y.magnitude := by
  have xBound := x.magnitude_lt
  have yBound := y.magnitude_lt
  unfold toBits
  cases x.negative <;> cases y.negative <;> simp <;> omega

theorem place_eq_zero_iff {x : Binary F} : x.place = 0 ↔ x.magnitude = 0 := by
  unfold place
  split <;> omega

theorem toBits_ne_zero {x : Binary F} (nonzero : x.place ≠ 0) : x.toBits ≠ 0 := by
  have sized : x.magnitude ≠ 0 := fun zero => nonzero (place_eq_zero_iff.mpr zero)
  unfold toBits
  omega

/-- Apart from zero, numbers have one place exactly if they have the same bits. -/
theorem toBits_eq_iff_place_eq {x y : Binary F} (nonzero : x.place ≠ 0) :
    x.toBits = y.toBits ↔ x.place = y.place := by
  have sized : x.magnitude ≠ 0 := fun zero => nonzero (place_eq_zero_iff.mpr zero)
  rw [toBits_eq_iff, place_eq_place_iff]
  simp only [sized, false_or]
  exact and_comm

/-- Numbers in double precision have a common key exactly if they are equal. -/
theorem exists_key?_iff {x y : Binary .double} :
    (∃ key, x.key? = some key ∧ y.key? = some key) ↔ x.equal y = true := by
  unfold key? equal
  cases x.isNaN with
  | true => simp
  | false =>
    cases y.isNaN with
    | true => simp
    | false =>
      by_cases xZero : x.place = 0
      · by_cases yZero : y.place = 0
        · simp [xZero, yZero]
        · simp [xZero, yZero, toBits_ne_zero yZero, Ne.symm yZero]
      · by_cases yZero : y.place = 0
        · simp [xZero, yZero, (toBits_ne_zero xZero).symm]
        · have bits : y.toBits = x.toBits ↔ x.place = y.place := by
            rw [eq_comm, toBits_eq_iff_place_eq xZero]
          simp [xZero, yZero, bits]

end Binary

/-- Values of one kind have a common key exactly if they are equal. -/
theorem Value.exists_key?_iff {v w : Value} (sameKind : v.kind = w.kind) :
    (∃ key, v.key? = some key ∧ w.key? = some key) ↔ v.equal w = true := by
  cases v <;> cases w <;> simp only [kind, reduceCtorEq, Kind.int.injEq] at sameKind
  case int =>
    simp only [key?, equal, sameKind, Option.some.injEq, exists_eq_left', MemberKey.integer.injEq,
      BEq.rfl, Bool.true_and, beq_iff_eq]
    exact eq_comm
  case single x y =>
    rw [equal, ← Binary.equal_widen]
    exact Binary.exists_key?_iff
  case double => exact Binary.exists_key?_iff
  case bool =>
    simp only [key?, equal, Option.some.injEq, exists_eq_left', MemberKey.truth.injEq, beq_iff_eq]
    exact eq_comm
  case text =>
    simp only [key?, equal, Option.some.injEq, exists_eq_left', MemberKey.text.injEq, beq_iff_eq]
    exact eq_comm

/-- A value is a member of a list exactly if it equals some value of the list. -/
theorem ValueSet.contains_eq_true_iff {s : ValueSet} (uniform : s.Uniform) (x : Value) :
    s.contains x = true ↔ ∃ v ∈ s.values, x.equal v = true := by
  constructor
  · intro member
    rw [contains, Bool.and_eq_true, beq_iff_eq] at member
    obtain ⟨sameKind, found⟩ := member
    cases keyed : x.key? with
    | none => rw [keyed] at found; cases found
    | some key =>
      rw [keyed] at found
      obtain ⟨v, member, same⟩ := List.mem_filterMap.mp (List.contains_iff_mem.mp found)
      have oneKind := uniform v member
      rw [sameKind] at oneKind
      exact ⟨v, member, (Value.exists_key?_iff (Option.some.inj oneKind)).mp ⟨key, keyed, same⟩⟩
  · rintro ⟨v, member, equal⟩
    have sameKind := Value.kind_eq_of_equal equal
    obtain ⟨key, keyed, same⟩ := (Value.exists_key?_iff sameKind).mpr equal
    have found : key ∈ s.index := List.mem_filterMap.mpr ⟨v, member, same⟩
    rw [contains, uniform v member, sameKind, keyed, beq_self_eq_true, Bool.true_and]
    exact List.contains_iff_mem.mpr found

/-! ### Equality of values -/

/-- A value that is not a number equals nothing. -/
theorem Value.equal_of_isNaN {x : Value} (nan : x.isNaN = true) (v : Value) :
    x.equal v = false := by
  cases x with
  | single x => cases v <;> simp_all [isNaN, equal, Binary.equal]
  | double x => cases v <;> simp_all [isNaN, equal, Binary.equal]
  | int | bool | text => cases nan

/-- Equal values, such as the two zeros, equal the same values. -/
theorem Value.equal_congr {x y : Value} (same : x.equal y = true) (v : Value) :
    x.equal v = y.equal v := by
  cases x <;> cases y <;> cases v <;> simp_all [equal, Binary.equal]

/-! ### Membership as equalities -/

namespace Condition

section

variable [Pattern.Engine] {values : List Value} {record : Record} {scope : Option Record}

theorem eval_eq (v : Value) :
    (eq (.value v)).eval record scope =
      match record.scalar with
      | none => .error .notScalar
      | some subject => .ok (subject.equal v) := by
  rw [eq, scalar, eval, Comparison.eval]
  cases record.scalar <;> rfl

theorem eval_ne (v : Value) :
    (ne (.value v)).eval record scope =
      match record.scalar with
      | none => .error .notScalar
      | some subject => .ok (!subject.equal v) := by
  rw [ne, scalar, eval, Comparison.eval]
  cases record.scalar <;> rfl

/-- Some equality holds if the scalar equals some value. Without a scalar the first one
fails. -/
theorem evalAny_eq (nonempty : values ≠ []) :
    evalAny (values.map fun v => eq (.value v)) record scope =
      match record.scalar with
      | none => .error .notScalar
      | some subject => .ok (values.any subject.equal) := by
  cases scalar : record.scalar with
  | none =>
    -- an empty disjunction would have missed instead of failing
    obtain ⟨first, rest, rfl⟩ := List.exists_cons_of_ne_nil nonempty
    rw [List.map_cons, evalAny, eval_eq, scalar]
  | some subject =>
    clear nonempty
    induction values with
    | nil => rfl
    | cons v rest ih =>
      dsimp only at ih ⊢
      rw [List.map_cons, evalAny, eval_eq, scalar, ih, List.any_cons]
      dsimp only
      cases subject.equal v <;> rfl

/-- All inequalities hold if the scalar equals none of the values. Without a scalar the
first one fails. -/
theorem evalAll_ne (nonempty : values ≠ []) :
    evalAll (values.map fun v => ne (.value v)) record scope =
      match record.scalar with
      | none => .error .notScalar
      | some subject => .ok !values.any subject.equal := by
  cases scalar : record.scalar with
  | none =>
    obtain ⟨first, rest, rfl⟩ := List.exists_cons_of_ne_nil nonempty
    rw [List.map_cons, evalAll, eval_ne, scalar]
  | some subject =>
    clear nonempty
    induction values with
    | nil => rfl
    | cons v rest ih =>
      dsimp only at ih ⊢
      rw [List.map_cons, evalAll, eval_ne, scalar, ih, List.any_cons]
      dsimp only
      cases subject.equal v <;> rfl

/-- Membership in a list says whether the scalar equals some value of the list. -/
theorem eval_set {s : ValueSet} (uniform : s.Uniform) (op : Operator) :
    (comparison ⟨op, .set s⟩).eval record scope =
      match record.scalar with
      | none => .error .notScalar
      | some subject => .ok (s.values.any subject.equal != op.isNegative) := by
  simp only [eval, Comparison.eval]
  cases record.scalar with
  | none => rfl
  | some subject =>
    have member : s.contains subject = s.values.any subject.equal := by
      rw [Bool.eq_iff_iff, ValueSet.contains_eq_true_iff uniform, List.any_eq_true]
    dsimp only
    rw [member]

/-- For values of one kind, membership has the outcome of the disjunction of equalities on
every record, and absence the outcome of the conjunction of inequalities. A value is a member
exactly if it equals one of them: nothing that is not a number is a member, nor is anything of
another kind, and of two equal values, such as the two zeros, both are members or none. -/
theorem eval_membership {common : Kind} (nonempty : values ≠ [])
    (oneKind : ∀ v ∈ values, v.kind = common) :
    ∃ s, ValueSet.ofValues values = .ok s ∧
      isIn? values = .ok (.comparison ⟨.isIn, .set s⟩) ∧
      notIn? values = .ok (.comparison ⟨.notIn, .set s⟩) ∧
      (∀ record scope, (Condition.comparison ⟨.isIn, .set s⟩).eval record scope =
        (any (values.map fun v => eq (.value v))).eval record scope) ∧
      (∀ record scope, (Condition.comparison ⟨.notIn, .set s⟩).eval record scope =
        (all (values.map fun v => ne (.value v))).eval record scope) ∧
      (∀ x, s.contains x = true ↔ ∃ v ∈ values, x.equal v = true) ∧
      (∀ x, x.isNaN = true ∨ x.kind ≠ common → s.contains x = false) ∧
      ∀ x y, x.equal y = true → s.contains x = s.contains y := by
  have collected : ValueSet.ofValues values = .ok ⟨values⟩ :=
    ValueSet.ofValues_eq_ok_iff.mpr ⟨rfl, common, oneKind⟩
  have uniform : (⟨values⟩ : ValueSet).Uniform := (ValueSet.uniform_of_ofValues collected).1
  have member := ValueSet.contains_eq_true_iff uniform
  refine ⟨⟨values⟩, collected, ?_, ?_, ?_, ?_, member, ?_, ?_⟩
  · rw [isIn?, membership?, collected]
    rfl
  · rw [notIn?, membership?, collected]
    rfl
  · intro record scope
    have kept : always ∉ values.map fun v => eq (.value v) := by simp [eq, scalar]
    rw [eval_any kept, evalAny_eq nonempty, eval_set uniform]
    simp only [Operator.isNegative, Bool.bne_false]
  · intro record scope
    have kept : never ∉ values.map fun v => ne (.value v) := by simp [ne, scalar]
    rw [eval_all kept, evalAll_ne nonempty, eval_set uniform]
    simp only [Operator.isNegative, Bool.bne_true]
  · intro x outside
    rw [← Bool.not_eq_true, member]
    rintro ⟨v, listed, equal⟩
    rcases outside with nan | otherKind
    · rw [Value.equal_of_isNaN nan] at equal
      cases equal
    · exact otherKind ((Value.kind_eq_of_equal equal).trans (oneKind v listed))
  · intro x y same
    rw [Bool.eq_iff_iff, member, member]
    simp only [Value.equal_congr same]

end

/-- The list holds a negative zero and a value that is not a number, in single precision. -/
theorem eval_membership_of_zero_and_nan :
    ∃ (zero negativeZero nan : Binary .single) (s : ValueSet),
      zero.place = 0 ∧ negativeZero.negative = true ∧ nan.isNaN = true ∧
      isIn? [.single nan, .single negativeZero] = .ok (.comparison ⟨.isIn, .set s⟩) ∧
      (∀ record scope, (Condition.comparison ⟨.isIn, .set s⟩).eval record scope =
        (any [eq (.value (.single nan)), eq (.value (.single negativeZero))]).eval record scope) ∧
      s.contains (.single nan) = false ∧ s.contains (.single zero) = true := by
  let zero : Binary .single := .ofBits .single 0
  let negativeZero : Binary .single := .ofBits .single 0x80000000
  let nan : Binary .single := .ofBits .single 0x7FC00001
  have oneKind : ∀ v ∈ [Value.single nan, .single negativeZero], v.kind = .single := by
    simp [Value.kind]
  obtain ⟨s, -, made, -, meaning, -, member, outside, -⟩ := eval_membership (by simp) oneKind
  refine ⟨zero, negativeZero, nan, s, rfl, rfl, rfl, made, meaning, outside _ (.inl rfl), ?_⟩
  exact (member _).mpr ⟨_, List.mem_cons_of_mem _ List.mem_cons_self, rfl⟩

end Condition

end RecordFilter
