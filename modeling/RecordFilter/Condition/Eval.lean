import RecordFilter.Condition.Basic

/-!
# Evaluation of conditions

Terms are evaluated from left to right, constraints on fields in the order of names.
Conjunctions stop at the first term that does not hold, disjunctions at the first one
that does, and an error ends the whole evaluation. Patterns mean what an engine says.

## Main definitions

* `Condition.eval`: the outcome on a record, given the record around it
* `Condition.holds`: the outcome on a record by itself

## Main results

* `Condition.evalAll_append`, `Condition.evalAny_append`: rows of terms are evaluated one
  part after the other
-/

namespace RecordFilter.Condition

variable [Pattern.Engine]

mutual

/-- The outcome of a condition on a record. `scope` is the record around it, whose fields
references mean; it is the record itself for the constraints on the record's fields. -/
def eval : Condition → Record → Option Record → Except EvalError Bool
  | .always, _, _ => .ok true
  | .never, _, _ => .ok false
  | .comparison c, record, scope => c.eval record scope
  | .conj terms, record, scope => evalAll terms record scope
  | .disj terms, record, scope => evalAny terms record scope
  | .invert inner, record, scope =>
    match inner.eval record scope with
    | .error e => .error e
    | .ok hit => .ok (!hit)
  | .fields constraints, record, _ => evalFields constraints record
  | .failure message, _, _ => .error (.injected message)

/-- Whether all terms hold, up to the first that does not. -/
def evalAll : List Condition → Record → Option Record → Except EvalError Bool
  | [], _, _ => .ok true
  | t :: rest, record, scope =>
    match t.eval record scope with
    | .error e => .error e
    | .ok false => .ok false
    | .ok true => evalAll rest record scope

/-- Whether some term holds, up to the first that does. -/
def evalAny : List Condition → Record → Option Record → Except EvalError Bool
  | [], _, _ => .ok false
  | t :: rest, record, scope =>
    match t.eval record scope with
    | .error e => .error e
    | .ok true => .ok true
    | .ok false => evalAny rest record scope

/-- Whether all constraints are met, up to the first that is not. A field that the record
lacks is an error. -/
def evalFields : List (String × Condition) → Record → Except EvalError Bool
  | [], _ => .ok true
  | (name, constraint) :: rest, record =>
    match record.field name with
    | none => .error (.missingField name)
    | some v =>
      match constraint.eval (.ofValue v) (some record) with
      | .error e => .error e
      | .ok false => .ok false
      | .ok true => evalFields rest record

end

/-- The outcome of a condition on a record that is part of no other. -/
def holds (c : Condition) (record : Record) : Except EvalError Bool := c.eval record none

/-- A row of terms is evaluated one part after the other. -/
theorem evalAll_append (first second : List Condition) (record : Record)
    (scope : Option Record) :
    evalAll (first ++ second) record scope =
      match evalAll first record scope with
      | .error e => .error e
      | .ok false => .ok false
      | .ok true => evalAll second record scope := by
  induction first with
  | nil => rfl
  | cons t rest ih =>
    simp only [List.cons_append, evalAll, ih]
    split <;> rfl

/-- A row of alternatives is evaluated one part after the other. -/
theorem evalAny_append (first second : List Condition) (record : Record)
    (scope : Option Record) :
    evalAny (first ++ second) record scope =
      match evalAny first record scope with
      | .error e => .error e
      | .ok true => .ok true
      | .ok false => evalAny second record scope := by
  induction first with
  | nil => rfl
  | cons t rest ih =>
    simp only [List.cons_append, evalAny, ih]
    split <;> rfl

end RecordFilter.Condition
