import Mathlib.Data.List.Forall2
import RecordFilter.Pattern.Basic
import RecordFilter.Proofs.Condition.Combinators

/-!
# Short circuits

Terms are gone through from left to right. The first outcome that is not the truth value to go
on with settles the row: an error always does, a term that does not hold settles a
conjunction, and one that holds settles a disjunction. What comes after it has no influence.

Rows are simplified before they are evaluated, and only one rule of that can be noticed. A
constant that absorbs a row decides it wherever it stands, so terms before it that would have
failed are passed over, too.

## Main definitions

* `shortCircuit`: the outcome of a row of outcomes
* `Condition.constraintOutcome`: the outcome of a constraint on a field

## Main results

* `Condition.eval_node`, `Condition.eval_fields`: nodes as rows
* `Condition.eval_combinators`: conjunctions and disjunctions of any conditions
-/

namespace RecordFilter

/-! ### Rows of outcomes -/

/-- The outcome of a row of outcomes: the first that is not the truth value to go on with, or
that truth value at the end of the row. -/
def shortCircuit (goOn : Bool) (outcomes : List (Except EvalError Bool)) :
    Except EvalError Bool :=
  (outcomes.find? fun outcome => outcome ≠ .ok goOn).getD (.ok goOn)

section

variable {goOn : Bool} {outcome : Except EvalError Bool}
  {outcomes : List (Except EvalError Bool)}

@[simp] theorem shortCircuit_nil : shortCircuit goOn [] = .ok goOn := rfl

/-- One step along a row. -/
theorem shortCircuit_cons :
    shortCircuit goOn (outcome :: outcomes) =
      match outcome with
      | .error e => .error e
      | .ok b => if b = goOn then shortCircuit goOn outcomes else .ok b := by
  cases outcome with
  | error e => simp [shortCircuit]
  | ok b => by_cases settled : b = goOn <;> simp [shortCircuit, settled]

/-- In a row of one, that outcome settles everything. -/
theorem shortCircuit_singleton : shortCircuit goOn [outcome] = outcome := by
  rw [shortCircuit_cons]
  cases outcome with
  | error e => rfl
  | ok b =>
    by_cases settled : b = goOn
    · simp only [settled, if_true, shortCircuit_nil]
    · simp only [settled, if_false]

/-- A row fails only with the error of one of its outcomes. -/
theorem error_mem_of_shortCircuit {e : EvalError}
    (failed : shortCircuit goOn outcomes = .error e) : .error e ∈ outcomes := by
  induction outcomes with
  | nil => cases failed
  | cons outcome rest ih =>
    rw [shortCircuit_cons] at failed
    split at failed
    · cases failed
      exact List.mem_cons_self
    · split at failed
      · exact List.mem_cons_of_mem _ (ih failed)
      · cases failed

end

section

variable [Pattern.Engine] {record : Record} {scope : Option Record}

/-! ### Nodes -/

/-- A row of terms goes on as long as they have the neutral truth value. -/
theorem Connective.evalRow_eq_shortCircuit (connective : Connective) (terms : List Condition) :
    connective.evalRow terms record scope =
      shortCircuit connective.neutral (terms.map fun t => t.eval record scope) := by
  induction terms with
  | nil => cases connective <;> rfl
  | cons t rest ih =>
    rw [List.map_cons, shortCircuit_cons, ← ih]
    cases connective <;> simp only [evalRow, Condition.evalAll, Condition.evalAny] <;>
      rcases t.eval record scope with e | _ | _ <;> rfl

namespace Condition

/-- The outcome of a constraint on a field of the record. -/
def constraintOutcome (record : Record) (f : String × Condition) : Except EvalError Bool :=
  match record.field f.1 with
  | none => .error (.missingField f.1)
  | some v => f.2.eval (.ofValue v) (some record)

theorem evalFields_eq_shortCircuit (constraints : List (String × Condition)) :
    evalFields constraints record =
      shortCircuit true (constraints.map (constraintOutcome record)) := by
  induction constraints with
  | nil => rw [evalFields, List.map_nil, shortCircuit_nil]
  | cons f rest ih =>
    obtain ⟨name, constraint⟩ := f
    rw [evalFields, List.map_cons, shortCircuit_cons, ih, constraintOutcome]
    cases record.field name with
    | none => rfl
    | some v =>
      dsimp only
      rcases constraint.eval (.ofValue v) (some record) with e | _ | _ <;> rfl

theorem eval_node (connective : Connective) (terms : List Condition) :
    (connective.node terms).eval record scope =
      shortCircuit connective.neutral (terms.map fun t => t.eval record scope) := by
  rw [Connective.eval_node, Connective.evalRow_eq_shortCircuit]

theorem eval_fields (constraints : List (String × Condition)) :
    (fields constraints).eval record scope =
      shortCircuit true (constraints.map (constraintOutcome record)) := by
  rw [eval, evalFields_eq_shortCircuit]

/-- A constraint on one field has the outcome of that constraint. -/
theorem eval_onField (record : Record) (scope : Option Record) (f : String × Condition) :
    (onField f.1 f.2).eval record scope = constraintOutcome record f := by
  rw [onField, eval_fields, List.map_singleton, shortCircuit_singleton]

/-! ### Combinators -/

theorem eval_all_eq_shortCircuit {conditions : List Condition} (kept : never ∉ conditions) :
    (all conditions).eval record scope =
      shortCircuit true (conditions.map fun c => c.eval record scope) :=
  (eval_all kept).trans (Connective.and.evalRow_eq_shortCircuit conditions)

theorem eval_any_eq_shortCircuit {conditions : List Condition} (kept : always ∉ conditions) :
    (any conditions).eval record scope =
      shortCircuit false (conditions.map fun c => c.eval record scope) :=
  (eval_any kept).trans (Connective.or.evalRow_eq_shortCircuit conditions)

/-- Without an operand that absorbs the others, a conjunction has the outcome of its operands
from left to right, up to the first that does not hold or fails, and a disjunction up to the
first that holds or fails. An operand that absorbs the others decides, whatever they would
have done and wherever it stands. -/
theorem eval_combinators (conditions : List Condition) (record : Record)
    (scope : Option Record) :
    (never ∉ conditions → (all conditions).eval record scope =
      shortCircuit true (conditions.map fun c => c.eval record scope)) ∧
    (never ∈ conditions → (all conditions).eval record scope = .ok false) ∧
    (always ∉ conditions → (any conditions).eval record scope =
      shortCircuit false (conditions.map fun c => c.eval record scope)) ∧
    (always ∈ conditions → (any conditions).eval record scope = .ok true) := by
  refine ⟨eval_all_eq_shortCircuit, ?_, eval_any_eq_shortCircuit, ?_⟩
  · intro absorbed
    rw [all_eq_never_of_mem absorbed, eval]
  · intro absorbed
    rw [any_eq_always_of_mem absorbed, eval]

end Condition

end

namespace Condition

/-- The conjunction in the row is spliced into it, and of two failures the first one is
reported. With a constant behind them that absorbs the row, neither is. -/
theorem eval_combinators_of_failures :
    ∃ (row : List Condition) (record : Record),
      (never ∉ row ∧ (all row).eval record none =
        shortCircuit true (row.map fun c => c.eval record none)) ∧
      (always ∉ row ∧ (any row).eval record none =
        shortCircuit false (row.map fun c => c.eval record none)) ∧
      (all row).eval record none = .error (.injected "first") ∧
      (never ∈ row ++ [never] ∧ (all (row ++ [never])).eval record none = .ok false) ∧
      (always ∈ row ++ [always] ∧ (any (row ++ [always])).eval record none = .ok true) := by
  let five : Value := .int .i64 5 (by decide)
  let record := Record.ofValue five
  let row := [conj [ge (.value five), failure "first"], failure "second"]
  have noNever : never ∉ row := by simp [row]
  have noAlways : always ∉ row := by simp [row]
  have last (c : Condition) : c ∈ row ++ [c] := List.mem_append_right row List.mem_cons_self
  obtain ⟨conjunction, -, disjunction, -⟩ := eval_combinators row record none
  obtain ⟨-, absorbed, -, -⟩ := eval_combinators (row ++ [never]) record none
  obtain ⟨-, -, -, settled⟩ := eval_combinators (row ++ [always]) record none
  refine ⟨row, record, ⟨noNever, conjunction noNever⟩, ⟨noAlways, disjunction noAlways⟩, ?_,
    ⟨last never, absorbed (last never)⟩, ⟨last always, settled (last always)⟩⟩
  rw [conjunction noNever]
  decide +kernel

end Condition

end RecordFilter
