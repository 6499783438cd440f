import RecordFilter.Condition.Eval
import RecordFilter.Pattern.Basic
import RecordFilter.Proofs.Condition.Canonical

/-!
# Negation

The negation of a condition is its exact complement: it is true where the condition is
false, false where it is true, and it fails where the condition fails, for the same cause.
Only the operator that an error names may be the complementary one, since a comparison is
negated by complementing its operator. This covers values that are not numbers, because the
operators for greater values are defined as the negations of those for smaller ones.

Negating twice gives back the condition itself. That rests on the canonical form: a negation
of a constant, of a comparison or of a negation would be lost on the way.

## Main definitions

* `EvalError.SameCause`: errors that differ at most in the complement of their operator
* `Opposite`: contrary truth values, or errors of one cause

## Main results

* `Comparison.opposite_eval_complement`: complementing the operator negates a comparison
* `Condition.Canonical.negate_negate`: negating twice changes nothing
* `Condition.Built.opposite_eval_negate`: both for everything that combinators build
-/

namespace RecordFilter

/-! ### Opposite outcomes -/

/-- The errors have one cause: they are the same, or they are about one value and name
complementary operators. -/
inductive EvalError.SameCause : EvalError → EvalError → Prop
  | same (e : EvalError) : SameCause e e
  | kindMismatch (op : Operator) (expected actual : Kind) :
      SameCause (.kindMismatch op expected actual) (.kindMismatch op.complement expected actual)
  | unordered (op : Operator) : SameCause (.unordered op) (.unordered op.complement)
  | notText (op : Operator) (actual : Kind) :
      SameCause (.notText op actual) (.notText op.complement actual)

theorem EvalError.SameCause.symm {e f : EvalError} (h : e.SameCause f) : f.SameCause e := by
  cases h with
  | same => exact .same e
  | kindMismatch op expected actual =>
    have back := kindMismatch op.complement expected actual
    rwa [Operator.complement_complement] at back
  | unordered op =>
    have back := unordered op.complement
    rwa [Operator.complement_complement] at back
  | notText op actual =>
    have back := notText op.complement actual
    rwa [Operator.complement_complement] at back

/-- The outcomes are opposite: contrary truth values, or errors of one cause. -/
inductive Opposite : Except EvalError Bool → Except EvalError Bool → Prop
  | ok (b : Bool) : Opposite (.ok b) (.ok !b)
  | error {e f : EvalError} (cause : e.SameCause f) : Opposite (.error e) (.error f)

theorem Opposite.symm {x y : Except EvalError Bool} (h : Opposite x y) : Opposite y x := by
  cases h with
  | ok b =>
    have back := ok !b
    rwa [Bool.not_not] at back
  | error cause => exact .error cause.symm

theorem Opposite.eq_ok {b : Bool} {y : Except EvalError Bool} (h : Opposite (.ok b) y) :
    y = .ok !b := by
  cases h
  rfl

/-! ### Comparisons -/

/-- Complementary scalar operators have opposite outcomes on any two values. -/
theorem opposite_compareValues_complement {op : Operator} (scalar : op.isScalar = true)
    (subject operand : Value) :
    Opposite (compareValues op subject operand)
      (compareValues op.complement subject operand) := by
  by_cases ordering : op.isOrdering = true
  · have complementOrdering : op.complement.isOrdering = true := by
      rw [Operator.complement_isOrdering, ordering]
    rw [compareValues_eq_of_isOrdering ordering, compareValues_eq_of_isOrdering complementOrdering]
    split
    · exact .error (.kindMismatch op operand.kind subject.kind)
    · split
      · exact .error (.unordered op)
      · rw [Operator.holds_complement scalar]
        exact .ok (op.holds (subject.order? operand))
  · cases op with
    | eq => exact .ok (subject.equal operand)
    | ne => exact (Opposite.ok (subject.equal operand)).symm
    | lt | le | gt | ge => exact absurd rfl ordering
    | isIn | notIn | isMatch | notMatch => cases scalar

/-- Of complementary operators for lists or for patterns, one is negative. -/
theorem Operator.isNegative_complement {op : Operator}
    (paired : op.isMembership = true ∨ op.isPattern = true) :
    op.complement.isNegative = !op.isNegative := by
  cases op with
  | isIn | notIn | isMatch | notMatch => rfl
  | lt | le | gt | ge | eq | ne => rcases paired with h | h <;> cases h

/-- A hit that is turned round by one of two complementary operators is not by the other. -/
theorem opposite_hit {op : Operator} (paired : op.isMembership = true ∨ op.isPattern = true)
    (hit : Bool) :
    Opposite (.ok (hit != op.isNegative)) (.ok (hit != op.complement.isNegative)) := by
  have turned : (hit != !op.isNegative) = !(hit != op.isNegative) := by
    cases hit <;> cases op.isNegative <;> rfl
  rw [Operator.isNegative_complement paired, turned]
  exact .ok (hit != op.isNegative)

section

variable [Pattern.Engine]

/-- A search has the same outcome for both pattern operators, except for the operator that
an error names. -/
theorem searchValue_complement (op : Operator) (subject : Value) (p : Pattern) :
    (∃ hit, searchValue op subject p = .ok hit ∧
      searchValue op.complement subject p = .ok hit) ∨
    ∃ e f, EvalError.SameCause e f ∧ searchValue op subject p = .error e ∧
      searchValue op.complement subject p = .error f := by
  unfold searchValue
  cases Pattern.Engine.search? p with
  | none => exact .inr ⟨_, _, .same (.invalidPattern p.source), rfl, rfl⟩
  | some occursIn =>
    cases subject.text? with
    | none => exact .inr ⟨_, _, .notText op subject.kind, rfl, rfl⟩
    | some text => exact .inl ⟨occursIn text, rfl, rfl⟩

/-- A comparison and its complement have opposite outcomes on every record. -/
theorem Comparison.opposite_eval_complement {c : Comparison} (paired : c.WellPaired)
    (record : Record) (scope : Option Record) :
    Opposite (c.eval record scope) (c.complement.eval record scope) := by
  obtain ⟨op, operand⟩ := c
  unfold eval complement
  cases record.scalar with
  | none => exact .error (.same .notScalar)
  | some subject =>
    cases operand with
    | value v => exact opposite_compareValues_complement paired subject v
    | reference field =>
      dsimp only
      cases resolve scope field with
      | error e => exact .error (.same e)
      | ok v => exact opposite_compareValues_complement paired subject v
    | set s => exact opposite_hit (.inl paired.1) (s.contains subject)
    | pattern p =>
      dsimp only
      rcases searchValue_complement op subject p with
        ⟨hit, found, foundToo⟩ | ⟨e, f, cause, failed, failedToo⟩
      · rw [found, foundToo]
        exact opposite_hit (.inr paired) hit
      · rw [failed, failedToo]
        exact .error cause

end

/-! ### Conditions -/

namespace Condition

/-- Negating twice changes nothing. -/
theorem Canonical.negate_negate {c : Condition} (canonical : c.Canonical) :
    c.negate.negate = c := by
  cases canonical with
  | always | never | conj | disj | fields | failure => rfl
  | comparison => simp only [negate, Comparison.complement_complement]
  | @invert inner kept =>
    -- what a kept negation negates would be wrapped again
    cases inner with
    | conj | disj | fields | failure => rfl
    | always | never | comparison | invert => cases kept

section

variable [Pattern.Engine]

/-- A negation that is kept has the opposite outcome of what it negates. -/
theorem opposite_eval_invert (c : Condition) (record : Record) (scope : Option Record) :
    Opposite (c.eval record scope) ((invert c).eval record scope) := by
  simp only [eval]
  cases c.eval record scope with
  | error e => exact .error (.same e)
  | ok b => exact .ok b

theorem Canonical.opposite_negate {c : Condition} (canonical : c.Canonical)
    (record : Record) (scope : Option Record) :
    Opposite (c.eval record scope) (c.negate.eval record scope) := by
  cases canonical with
  | always =>
    simp only [negate, eval]
    exact .ok true
  | never =>
    simp only [negate, eval]
    exact .ok false
  | comparison paired =>
    simp only [negate, eval]
    exact Comparison.opposite_eval_complement paired record scope
  | conj | disj | fields | failure => exact opposite_eval_invert _ record scope
  | invert => exact (opposite_eval_invert _ record scope).symm

/-- Whatever combinators have built, its negation has the opposite outcome on every record,
inside any other record or none, and negating twice gives the very same condition. -/
theorem Built.opposite_eval_negate {c : Condition} (built : c.Built) (record : Record)
    (scope : Option Record) :
    Opposite (c.eval record scope) (c.negate.eval record scope) ∧ c.negate.negate = c :=
  ⟨built.canonical.opposite_negate record scope, built.canonical.negate_negate⟩

end

/-- A field that is not a number is less than nothing, so the complement holds of it. -/
theorem Built.opposite_eval_negate_of_nan :
    ∃ (c : Condition) (nan : Value) (outer : Record), c.Built ∧ nan.isNaN = true ∧
      Opposite (c.eval (.ofValue nan) (some outer)) (c.negate.eval (.ofValue nan) (some outer)) ∧
      c.negate.negate = c ∧ c.eval (.ofValue nan) (some outer) = .ok false ∧
      c.negate.eval (.ofValue nan) (some outer) = .ok true := by
  let nan : Value := .double (.ofBits .double 0x7FF8000000000000)
  let outer := Record.ofFields [("limit", .double (.ofBits .double 0))]
  have built : (lt (.reference "limit")).Built := .scalar rfl _
  obtain ⟨opposite, same⟩ := built.opposite_eval_negate (.ofValue nan) (some outer)
  have missed : (lt (.reference "limit")).eval (.ofValue nan) (some outer) = .ok false := rfl
  have held : (lt (.reference "limit")).negate.eval (.ofValue nan) (some outer) = .ok true := rfl
  exact ⟨_, nan, outer, built, rfl, opposite, same, missed, held⟩

end Condition

end RecordFilter
