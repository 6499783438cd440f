import RecordFilter.Proofs.Condition.Negation
import RecordFilter.Proofs.Condition.ShortCircuit

/-!
# De Morgan's laws

Negation is not pushed through conjunctions and disjunctions, but its outcome is as if it
were. The negation of a conjunction and the disjunction of the negations are built in
different ways: one wraps a node, the other complements comparisons, takes negations off and
flattens anew. They go through their terms in the same order, and what settles the one row
settles the other. So they have the same truth value or fail at the same term, where only the
operator that the error names may be the complementary one.

## Main definitions

* `Alike`: one truth value, or errors of one cause

## Main results

* `Opposite.shortCircuit`: rows of opposite outcomes have opposite outcomes
* `Condition.opposite_eval_all`: a conjunction and the disjunction of the negations
* `Condition.alike_eval_negate`: both laws for everything that combinators build
-/

namespace RecordFilter

/-! ### Outcomes -/

/-- The outcomes are alike: one truth value, or errors of one cause. -/
inductive Alike : Except EvalError Bool → Except EvalError Bool → Prop
  | ok (b : Bool) : Alike (.ok b) (.ok b)
  | error {e f : EvalError} (cause : e.SameCause f) : Alike (.error e) (.error f)

theorem EvalError.SameCause.trans {e f g : EvalError} (first : e.SameCause f)
    (second : f.SameCause g) : e.SameCause g := by
  cases first with
  | same => exact second
  | kindMismatch op expected actual =>
    cases second with
    | same => exact .kindMismatch op expected actual
    | kindMismatch =>
      rw [Operator.complement_complement]
      exact .same _
  | unordered op =>
    cases second with
    | same => exact .unordered op
    | unordered =>
      rw [Operator.complement_complement]
      exact .same _
  | notText op actual =>
    cases second with
    | same => exact .notText op actual
    | notText =>
      rw [Operator.complement_complement]
      exact .same _

/-- What is opposite to the same outcome is alike. -/
theorem Opposite.alike {x y z : Except EvalError Bool} (first : Opposite x y)
    (second : Opposite x z) : Alike y z := by
  cases first with
  | ok b =>
    cases second with
    | ok => exact .ok !b
  | error cause =>
    cases second with
    | error other => exact .error (cause.symm.trans other)

/-- Rows of opposite outcomes that go on with opposite truth values are settled at the same
place, and their outcomes are opposite. -/
theorem Opposite.shortCircuit {goOn : Bool} {row opposites : List (Except EvalError Bool)}
    (rows : List.Forall₂ Opposite row opposites) :
    Opposite (shortCircuit goOn row) (shortCircuit (!goOn) opposites) := by
  induction rows with
  | nil => exact .ok goOn
  | cons head _ ih =>
    rw [shortCircuit_cons, shortCircuit_cons]
    cases head with
    | error cause => exact .error cause
    | ok b =>
      by_cases goesOn : b = goOn
      · simpa [goesOn] using ih
      · simpa [goesOn] using Opposite.ok b

namespace Condition

variable {conditions : List Condition}

/-! ### Constants -/

/-- Only the negation of `never` is `always`. -/
theorem Canonical.negate_eq_always_iff {c : Condition} (canonical : c.Canonical) :
    c.negate = .always ↔ c = .never := by
  cases canonical with
  | invert kept =>
    simp only [negate, reduceCtorEq, iff_false]
    rintro rfl
    exact kept
  | always | never | comparison | conj | disj | fields | failure => simp [negate]

/-- The negations have a term that absorbs a disjunction exactly if the operands have one that
absorbs a conjunction. -/
theorem always_mem_map_negate_iff (parts : ∀ c ∈ conditions, c.Canonical) :
    always ∈ conditions.map negate ↔ never ∈ conditions := by
  rw [List.mem_map]
  constructor
  · rintro ⟨c, member, negated⟩
    rwa [(parts c member).negate_eq_always_iff.mp negated] at member
  · intro member
    exact ⟨never, member, rfl⟩

/-! ### The laws -/

section

variable [Pattern.Engine]

/-- A conjunction has the opposite outcome of the disjunction of the negations. -/
theorem opposite_eval_all (parts : ∀ c ∈ conditions, c.Canonical) (record : Record)
    (scope : Option Record) :
    Opposite ((all conditions).eval record scope)
      ((any (conditions.map negate)).eval record scope) := by
  by_cases absorbed : never ∈ conditions
  · have settled := (always_mem_map_negate_iff parts).mpr absorbed
    rw [all_eq_never_of_mem absorbed, any_eq_always_of_mem settled, eval, eval]
    exact .ok false
  · have kept := mt (always_mem_map_negate_iff parts).mp absorbed
    rw [eval_all_eq_shortCircuit absorbed, eval_any_eq_shortCircuit kept, List.map_map]
    refine Opposite.shortCircuit ?_
    rw [List.forall₂_map_left_iff, List.forall₂_map_right_iff, List.forall₂_same]
    exact fun c member => (parts c member).opposite_negate record scope

/-- A disjunction has the opposite outcome of the conjunction of the negations. -/
theorem opposite_eval_any (parts : ∀ c ∈ conditions, c.Canonical) (record : Record)
    (scope : Option Record) :
    Opposite ((any conditions).eval record scope)
      ((all (conditions.map negate)).eval record scope) := by
  have negated : ∀ c ∈ conditions.map negate, c.Canonical := by
    rw [List.forall_mem_map]
    exact fun c member => canonical_negate (parts c member)
  have back : (conditions.map negate).map negate = conditions := by
    rw [List.map_map]
    calc conditions.map (negate ∘ negate)
        = conditions.map id := List.map_congr_left fun c member => (parts c member).negate_negate
      _ = conditions := List.map_id conditions
  have dual := opposite_eval_all negated record scope
  rw [back] at dual
  exact dual.symm

/-- The negation of a conjunction and the disjunction of the negations have one truth value or
fail for one cause, and so do the negation of a disjunction and the conjunction of the
negations. -/
theorem alike_eval_negate (parts : ∀ c ∈ conditions, c.Built) (record : Record)
    (scope : Option Record) :
    Alike ((all conditions).negate.eval record scope)
      ((any (conditions.map negate)).eval record scope) ∧
    Alike ((any conditions).negate.eval record scope)
      ((all (conditions.map negate)).eval record scope) := by
  have canonical : ∀ c ∈ conditions, c.Canonical := fun c member => (parts c member).canonical
  constructor
  · have negated := (canonical_all canonical).opposite_negate record scope
    exact negated.alike (opposite_eval_all canonical record scope)
  · have negated := (canonical_any canonical).opposite_negate record scope
    exact negated.alike (opposite_eval_any canonical record scope)

end

/-- The conjunction starts with a constant that is dropped and the negation of a conjunction
that loses it, and the comparison behind them fails before the last operand can. The error
names the operator on one side and its complement on the other. -/
theorem alike_eval_negate_of_mismatch :
    ∃ (row : List Condition) (record : Record) (op : Operator) (expected actual : Kind),
      (∀ c ∈ row, c.Built) ∧
      Alike ((all row).negate.eval record none) ((any (row.map negate)).eval record none) ∧
      Alike ((any row).negate.eval record none) ((all (row.map negate)).eval record none) ∧
      (all row).negate.eval record none = .error (.kindMismatch op expected actual) ∧
      (any (row.map negate)).eval record none =
        .error (.kindMismatch op.complement expected actual) := by
  let five : ScalarOperand := .value (.int .i64 5 (by decide))
  let text : ScalarOperand := .value (.text "x")
  let record := (Record.ofFields [("s", .text "x")]).withScalar (.int .i64 5 (by decide))
  let row := [always, (all [ge five, lt five]).negate, onField "s" (eq text), le text,
    failure "later"]
  have built : ∀ c ∈ row, c.Built := by
    simp only [row, List.forall_mem_cons, List.not_mem_nil, false_implies, implies_true, and_true]
    exact ⟨.always, .negate (.and (.scalar rfl _) (.scalar rfl _)),
      .withField .noFields (.scalar rfl _) rfl, .scalar rfl _, .failure _⟩
  obtain ⟨conjunction, disjunction⟩ := alike_eval_negate built record none
  refine ⟨row, record, .le, .text, .int .i64, built, conjunction, disjunction, ?_, ?_⟩
  · decide +kernel
  · decide +kernel

end Condition

end RecordFilter
