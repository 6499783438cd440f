import RecordFilter.Proofs.Condition.Parts
import RecordFilter.Proofs.Condition.ShortCircuit

/-!
# Operators and operands

Nothing in the type of a comparison keeps a list from standing behind an ordering operator, or
values of different kinds from standing in one list. Building does: each constructor pairs its
operators with what they take, a complementary operator takes the same, and expressions are
read with an operand for their operator. Two errors are there for a wrong pair or a mixed
list. They are reported when a condition is built and by no evaluation.

Every error of an evaluation comes from a part of the condition, so what holds of the parts
settles what evaluations report.

## Main definitions

* `Condition.Causes`: an error that a single node gives rise to
* `EvalError.IsBuildError`: errors about the pairing

## Main results

* `Condition.exists_isPart_of_eval_eq_error`: where errors come from
* `Comparison.WellPaired.not_isBuildError`: what a well paired comparison reports
* `Condition.Obtained.pairing`: both for every condition that a program can come by
-/

namespace RecordFilter

section

variable [Pattern.Engine]

namespace Condition

/-! ### Where errors come from -/

/-- The node itself gives rise to the error: a comparison that fails on some record, a field
that may be missing, or a failure that is asked for. -/
inductive Causes : Condition → EvalError → Prop
  | comparison {leaf : Comparison} {e : EvalError} (record : Record) (scope : Option Record)
      (failed : leaf.eval record scope = .error e) : Causes (.comparison leaf) e
  | fields {constraints : List (String × Condition)} {f : String × Condition}
      (member : f ∈ constraints) : Causes (.fields constraints) (.missingField f.1)
  | failure (message : String) : Causes (.failure message) (.injected message)

/-- A constraint fails if the record lacks the field or if its value makes the condition
fail. -/
theorem constraintOutcome_eq_error {record : Record} {f : String × Condition} {e : EvalError}
    (failed : constraintOutcome record f = .error e) :
    e = .missingField f.1 ∨ ∃ v, f.2.eval (.ofValue v) (some record) = .error e := by
  unfold constraintOutcome at failed
  cases answered : record.field f.1 with
  | none =>
    rw [answered] at failed
    cases failed
    exact .inl rfl
  | some v =>
    rw [answered] at failed
    exact .inr ⟨v, failed⟩

/-- An evaluation fails only with an error that some part of the condition gives rise to. -/
theorem exists_isPart_of_eval_eq_error {c : Condition} {record : Record}
    {scope : Option Record} {e : EvalError} (failed : c.eval record scope = .error e) :
    ∃ node : Condition, node.IsPart c ∧ node.Causes e := by
  induction c using node_induction generalizing record scope with
  | always | never =>
    rw [eval] at failed
    cases failed
  | comparison leaf =>
    rw [eval] at failed
    exact ⟨_, .whole _, .comparison record scope failed⟩
  | node connective terms ih =>
    rw [eval_node] at failed
    obtain ⟨t, member, same⟩ := List.mem_map.mp (error_mem_of_shortCircuit failed)
    obtain ⟨node, part, causes⟩ := ih t member same
    exact ⟨node, isPart_node_iff.mpr (.inr ⟨t, member, part⟩), causes⟩
  | invert inner ih =>
    rw [eval] at failed
    cases outcome : inner.eval record scope with
    | error other =>
      rw [outcome] at failed
      cases failed
      obtain ⟨node, part, causes⟩ := ih outcome
      exact ⟨node, .invert part, causes⟩
    | ok hit =>
      rw [outcome] at failed
      cases failed
  | fields constraints ih =>
    rw [eval_fields] at failed
    obtain ⟨f, member, same⟩ := List.mem_map.mp (error_mem_of_shortCircuit failed)
    rcases constraintOutcome_eq_error same with rfl | ⟨v, below⟩
    · exact ⟨_, .whole _, .fields member⟩
    · obtain ⟨node, part, causes⟩ := ih f member below
      exact ⟨node, .fields member part, causes⟩
  | failure message =>
    rw [eval] at failed
    cases failed
    exact ⟨_, .whole _, .failure message⟩

end Condition

end

/-! ### Well paired comparisons -/

/-- The error is about an operator that is paired with a wrong operand, or about a list with
values of different kinds. -/
def EvalError.IsBuildError : EvalError → Prop
  | .notScalarOperator _ | .mixedList _ _ => True
  | _ => False

theorem not_isBuildError_of_compareValues {op : Operator} {subject operand : Value}
    {e : EvalError} (scalar : op.isScalar = true)
    (failed : compareValues op subject operand = .error e) : ¬ e.IsBuildError := by
  by_cases ordering : op.isOrdering = true
  · rw [compareValues_eq_of_isOrdering ordering] at failed
    split at failed
    · cases failed
      exact id
    · split at failed
      · cases failed
        exact id
      · cases failed
  · cases op with
    | eq | ne => cases failed
    | lt | le | gt | ge => exact absurd rfl ordering
    | isIn | notIn | isMatch | notMatch => cases scalar

theorem not_isBuildError_of_resolve {scope : Option Record} {field : String} {e : EvalError}
    (failed : resolve scope field = .error e) : ¬ e.IsBuildError := by
  unfold resolve at failed
  split at failed
  · cases failed
    exact id
  · split at failed
    · cases failed
      exact id
    · cases failed

theorem not_isBuildError_of_searchValue [Pattern.Engine] {op : Operator} {subject : Value}
    {p : Pattern} {e : EvalError} (failed : searchValue op subject p = .error e) :
    ¬ e.IsBuildError := by
  unfold searchValue at failed
  split at failed
  · cases failed
    exact id
  · split at failed
    · cases failed
      exact id
    · cases failed

/-- A comparison whose operator fits its operand does not report that they do not fit. -/
theorem Comparison.WellPaired.not_isBuildError [Pattern.Engine] {c : Comparison}
    (paired : c.WellPaired) {record : Record} {scope : Option Record} {e : EvalError}
    (failed : c.eval record scope = .error e) : ¬ e.IsBuildError := by
  obtain ⟨op, operand⟩ := c
  unfold eval at failed
  cases scalar : record.scalar with
  | none =>
    rw [scalar] at failed
    cases failed
    exact id
  | some subject =>
    rw [scalar] at failed
    dsimp only at failed
    cases operand with
    | value v => exact not_isBuildError_of_compareValues paired failed
    | reference field =>
      dsimp only at failed
      cases resolved : resolve scope field with
      | error other =>
        rw [resolved] at failed
        cases failed
        exact not_isBuildError_of_resolve resolved
      | ok v =>
        rw [resolved] at failed
        exact not_isBuildError_of_compareValues paired failed
    | set s => cases failed
    | pattern p =>
      dsimp only at failed
      cases found : searchValue op subject p with
      | error other =>
        rw [found] at failed
        cases failed
        exact not_isBuildError_of_searchValue found
      | ok hit =>
        rw [found] at failed
        cases failed

namespace Condition

/-! ### Everything that programs come by -/

theorem Canonical.wellPaired_of_isPart {c : Condition} (canonical : c.Canonical)
    {leaf : Comparison} (part : IsPart (.comparison leaf) c) : leaf.WellPaired :=
  (canonical.of_isPart part).wellPaired

/-- Evaluating a canonical condition never reports an error of building. -/
theorem Canonical.not_isBuildError [Pattern.Engine] {c : Condition} (canonical : c.Canonical)
    {record : Record} {scope : Option Record} {e : EvalError}
    (failed : c.eval record scope = .error e) : ¬ e.IsBuildError := by
  obtain ⟨node, part, causes⟩ := exists_isPart_of_eval_eq_error failed
  cases causes with
  | comparison _ _ failedThere =>
    exact (canonical.wellPaired_of_isPart part).not_isBuildError failedThere
  | fields | failure => exact id

/-- In whatever condition a program has come by, the operator of every comparison fits its
operand, where the values of a list have the recorded kind and only an empty list has none.
Complementing one of these comparisons gives another condition of this sort. So no evaluation
fails because an operator does not take a single value or because a list is mixed. -/
theorem Obtained.pairing [Pattern.Engine] {c : Condition} (obtained : c.Obtained) :
    (∀ leaf : Comparison, (comparison leaf).IsPart c →
      leaf.WellPaired ∧
      (∀ s, leaf.operand = .set s → (s.kind? = none ↔ s.values = [])) ∧
      (comparison leaf.complement).Obtained) ∧
    ∀ record scope,
      (∀ op, c.eval record scope ≠ .error (.notScalarOperator op)) ∧
      ∀ expected actual, c.eval record scope ≠ .error (.mixedList expected actual) := by
  have canonical := obtained.toBuilt.canonical
  constructor
  · intro leaf part
    exact ⟨canonical.wellPaired_of_isPart part, fun s _ => s.kind?_eq_none_iff,
      .complement (obtained.of_isPart part)⟩
  · intro record scope
    constructor
    · exact fun op failed => canonical.not_isBuildError failed trivial
    · exact fun expected actual failed => canonical.not_isBuildError failed trivial

/-- A membership in a list has been parsed and complemented, and is joined with a reference
below a field. -/
theorem Obtained.pairing_of_complemented_list :
    ∃ (c : Condition) (leaf : Comparison) (s : ValueSet),
      c.Obtained ∧ IsPart (.comparison leaf) c ∧ leaf.op = .notIn ∧ leaf.operand = .set s ∧
      s.values.length = 2 ∧ leaf.WellPaired ∧ (s.kind? = none ↔ s.values = []) ∧
      Obtained (.comparison leaf.complement) ∧
      ∀ record scope,
        (∀ op, c.eval record scope ≠ .error (.notScalarOperator op)) ∧
        ∀ expected actual, c.eval record scope ≠ .error (.mixedList expected actual) := by
  let s : ValueSet := ⟨[.int .i64 1 (by decide), .int .i64 2 (by decide)]⟩
  obtain ⟨sentence, said, same⟩ := Sentence.exists_ofText_of_read .empty "_ IN (1, 2)"
    ⟨⟨.record, ⟨.isIn, .set s⟩⟩, []⟩ (by decide +kernel)
  have read : parse .empty "_ IN (1, 2)" = .ok (.comparison ⟨.isIn, .set s⟩) := by
    refine parse_eq_ok_iff_ofText.mpr (.inr ⟨sentence, said, ?_⟩)
    rw [same]
    rfl
  let leaf : Comparison := ⟨.notIn, .set s⟩
  have complemented : Obtained (.comparison leaf) := .complement (.parsed read)
  let both := Condition.all [.comparison leaf, ge (.reference "m")]
  have joined : both.Obtained := by
    apply Obtained.all
    simp only [List.forall_mem_cons, List.not_mem_nil, false_implies, implies_true, and_true]
    exact ⟨complemented, .built (.scalar rfl _)⟩
  have whole : (Condition.fields [("n", both)]).Obtained :=
    .withField (.built .noFields) joined rfl
  have part : IsPart (.comparison leaf) (.fields [("n", both)]) :=
    .fields List.mem_cons_self (.conj List.mem_cons_self (.whole _))
  obtain ⟨pairs, outcomes⟩ := whole.pairing
  obtain ⟨paired, recorded, complement⟩ := pairs leaf part
  exact ⟨_, leaf, s, whole, part, rfl, rfl, rfl, paired, recorded s rfl, complement, outcomes⟩

end Condition

end RecordFilter
