import RecordFilter.Condition.Eval
import RecordFilter.Proofs.Condition.Terms

/-!
# Simplification and evaluation

The combinators flatten their operands and drop constants while they build. None of this
is seen by an evaluation: a conjunction has the outcome of its operands taken from left to
right, errors included, and so has a disjunction. The one exception is wanted: an operand
that absorbs the rest also absorbs the errors before it.

## Main definitions

* `Connective.evalRow`: the outcome of a row of operands

## Main results

* `Connective.evalRow_terms?`: flattening is not noticed
* `Connective.eval_combine`: the outcome of a combination
* `Condition.eval_all`, `Condition.eval_any`: the same for conjunctions and disjunctions
-/

namespace RecordFilter

variable [Pattern.Engine]

namespace Connective

/-- The outcome of a row of operands, gone through as the connective does. -/
def evalRow : Connective → List Condition → Record → Option Record → Except EvalError Bool
  | and => Condition.evalAll
  | or => Condition.evalAny

variable {connective : Connective} {row more others terms : List Condition} {record : Record}
  {scope : Option Record}

/-- A row of one has the outcome of that operand. -/
theorem evalRow_singleton (connective : Connective) (c : Condition) :
    connective.evalRow [c] record scope = c.eval record scope := by
  cases connective <;> simp only [evalRow, Condition.evalAll, Condition.evalAny] <;>
    rcases c.eval record scope with e | _ | _ <;> rfl

/-- Either part of a row can be exchanged for one with the same outcome. -/
theorem evalRow_append_congr {back : List Condition}
    (front : connective.evalRow row record scope = connective.evalRow others record scope)
    (behind : connective.evalRow more record scope = connective.evalRow back record scope) :
    connective.evalRow (row ++ more) record scope =
      connective.evalRow (others ++ back) record scope := by
  cases connective with
  | and =>
    simp only [evalRow] at *
    rw [Condition.evalAll_append, Condition.evalAll_append, front, behind]
  | or =>
    simp only [evalRow] at *
    rw [Condition.evalAny_append, Condition.evalAny_append, front, behind]

theorem eval_unit : connective.unit.eval record scope = connective.evalRow [] record scope := by
  cases connective <;> rfl

theorem eval_node :
    (connective.node terms).eval record scope = connective.evalRow terms record scope := by
  cases connective <;> rw [node, Condition.eval, evalRow]

/-- Flattening does not change what a row of operands amounts to. -/
theorem evalRow_terms? (flattened : connective.terms? row = some terms) :
    connective.evalRow terms record scope = connective.evalRow row record scope := by
  induction row generalizing terms with
  | nil =>
    rw [terms?_nil] at flattened
    cases flattened
    rfl
  | cons c rest ih =>
    rw [terms?_cons] at flattened
    obtain ⟨front, ofFirst, flattenedRest⟩ := Option.bind_eq_some_iff.mp flattened
    obtain ⟨later, ofRest, rfl⟩ := Option.map_eq_some_iff.mp flattenedRest
    have first : connective.evalRow front record scope = connective.evalRow [c] record scope := by
      rw [evalRow_singleton]
      rcases cases_of_terms? ofFirst with ⟨rfl, rfl⟩ | ⟨-, rfl⟩ | rfl
      · exact eval_unit.symm
      · exact evalRow_singleton connective c
      · exact eval_node.symm
    exact evalRow_append_congr first (ih ofRest)

/-- A combination that nothing absorbs has the outcome of its operands from left to right. -/
theorem eval_combine (kept : connective.absorbing ∉ row) :
    (connective.combine row).eval record scope = connective.evalRow row record scope := by
  obtain ⟨terms, flattened⟩ := exists_terms? kept
  rw [← evalRow_terms? flattened, combine_eq_ofTerms, flattened]
  match terms with
  | [] => exact eval_unit
  | [c] => exact (evalRow_singleton connective c).symm
  | _ :: _ :: _ => exact eval_node

end Connective

namespace Condition

variable {conditions : List Condition} {record : Record} {scope : Option Record}

theorem eval_all (kept : .never ∉ conditions) :
    (all conditions).eval record scope = evalAll conditions record scope :=
  @Connective.eval_combine _ .and conditions record scope kept

theorem eval_any (kept : .always ∉ conditions) :
    (any conditions).eval record scope = evalAny conditions record scope :=
  @Connective.eval_combine _ .or conditions record scope kept

end Condition

end RecordFilter
