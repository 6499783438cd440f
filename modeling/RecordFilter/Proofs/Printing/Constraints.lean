import RecordFilter.Printing.Basic
import RecordFilter.Proofs.Condition.Canonical
import RecordFilter.Proofs.Condition.ShortCircuit

/-!
# Constraints on fields as a conjunction

Constraints on several fields say what the conjunction of the constraints says, each taken as
a condition of its own. They are a node of another shape, with an evaluator and a text of its
own, and both go through the fields in the same order: the outcome is that of the first
constraint that is not met or fails, and the text is that of the constraints joined by `AND`,
or the error of the first one that has none.

The conjunction is a node of its own only if there are several constraints. Without any it is
the constant `always`, and with one it is the node of that constraint.

## Main definitions

* `Condition.separate`: constraints as conditions of their own

## Main results

* `Condition.eval_all_separate`: constraints and their conjunction have the same outcome
* `Condition.fragments_all_separate`: they have the same text wherever they stand
* `Condition.fields_agree_with_all_separate`: both, for whole conditions
-/

namespace RecordFilter.Condition

/-- Each constraint as a condition of its own, in order. -/
def separate (constraints : List (String × Condition)) : List Condition :=
  constraints.map fun f => onField f.1 f.2

variable {constraints : List (String × Condition)} {record : Record} {scope : Option Record}
  {d : Dialect}

@[simp] theorem separate_nil : separate [] = [] := rfl

@[simp] theorem separate_cons (f : String × Condition) :
    separate (f :: constraints) = onField f.1 f.2 :: separate constraints := rfl

theorem isConjTerm_of_mem_separate {c : Condition} (member : c ∈ separate constraints) :
    c.IsConjTerm := by
  obtain ⟨f, -, rfl⟩ := List.mem_map.mp member
  trivial

theorem never_notMem_separate : never ∉ separate constraints :=
  fun member => isConjTerm_of_mem_separate member

/-- No constraint is lost or absorbed in the conjunction. -/
theorem conjTerms?_separate : conjTerms? (separate constraints) = some (separate constraints) :=
  @Connective.terms?_eq_self .and _ fun _ => isConjTerm_of_mem_separate

/-! ### Outcomes -/

/-- Constraints have the outcome of their conjunction. -/
theorem eval_all_separate [Pattern.Engine] :
    (all (separate constraints)).eval record scope = (fields constraints).eval record scope := by
  have outcomes : (separate constraints).map (fun c => c.eval record scope) =
      constraints.map (constraintOutcome record) := by
    rw [separate, List.map_map]
    exact List.map_congr_left fun f _ => eval_onField record scope f
  rw [eval_all_eq_shortCircuit never_notMem_separate, eval_fields, outcomes]

/-! ### Texts -/

/-- Inside a conjunction a constraint needs no parentheses, whether it stands there as a
condition or as part of a node of constraints. -/
theorem fragments_onField (f : String × Condition) :
    (onField f.1 f.2).fragments d none .conj = f.2.fragments d (some f.1) .conj := by
  rw [onField, fragments, constraintFragments, constraintFragments]
  cases f.2.fragments d (some f.1) .conj with
  | error e => rfl
  | ok fs => exact congrArg Except.ok (List.append_nil fs)

theorem termFragments_separate :
    termFragments d none .conj (separate constraints) = constraintFragments d constraints := by
  induction constraints with
  | nil => rw [separate_nil, termFragments, constraintFragments]
  | cons f rest ih =>
    obtain ⟨name, constraint⟩ := f
    rw [separate_cons, termFragments, constraintFragments, ih, fragments_onField]

/-- Constraints have the text of their conjunction, or the same error, wherever they stand in
a condition on the record itself. -/
theorem fragments_all_separate (inside : Surrounding) :
    (all (separate constraints)).fragments d none inside =
      (fields constraints).fragments d none inside := by
  match constraints with
  | [] => rw [separate_nil, all, conjTerms?, fragments, fragments]; rfl
  | [f] => rw [all, conjTerms?_separate]; rfl
  | f :: g :: rest =>
    have node : all (separate (f :: g :: rest)) = conj (separate (f :: g :: rest)) := by
      rw [all, conjTerms?_separate]
      rfl
    rw [node, fragments, fragments, termFragments_separate]
    rfl

/-- Constraints on fields are the conjunction of the constraints one by one. On every record,
within any other, both have the same outcome, which may be the error of a field that is missing
or of a constraint that fails, and in every dialect both have the same text, or neither has one
and for the same reason. -/
theorem fields_agree_with_all_separate [Pattern.Engine] (constraints : List (String × Condition)) :
    (∀ (record : Record) (scope : Option Record),
      (fields constraints).eval record scope = (all (separate constraints)).eval record scope) ∧
    ∀ d : Dialect, (fields constraints).print d = (all (separate constraints)).print d := by
  refine ⟨fun record scope => eval_all_separate.symm, fun d => ?_⟩
  rw [print, print, fragments_all_separate]

end RecordFilter.Condition
