import RecordFilter.Kind
import RecordFilter.Operator

/-!
# Errors of evaluation

The causes for which a condition has no truth value on a record, and for which a
comparison cannot be built.

## Main definitions

* `EvalError`, with its wording `EvalError.message`
* `EvalError.complement`: the same cause, seen from the complementary operator
-/

namespace RecordFilter

/-- Why a comparison has no answer. -/
inductive EvalError where
  /-- An ordering operator met values of different kinds. -/
  | kindMismatch (op : Operator) (expected actual : Kind)
  /-- An ordering operator met truth values. -/
  | unordered (op : Operator)
  /-- A pattern operator met a value that is not a text. -/
  | notText (op : Operator) (actual : Kind)
  /-- The pattern is not well formed. -/
  | invalidPattern (source : String)
  /-- The record has no field with the name. -/
  | missingField (name : String)
  /-- The record is not a scalar. -/
  | notScalar
  /-- A field is referred to outside of any record. -/
  | unbound (name : String)
  /-- An operator for lists or patterns was given a single value. -/
  | notScalarOperator (op : Operator)
  /-- A list holds values of different kinds. -/
  | mixedList (expected actual : Kind)
  /-- The condition asks for this failure. -/
  | injected (message : String)
  deriving DecidableEq, Repr

namespace EvalError

/-- The wording of an error. -/
def message : EvalError → String
  | kindMismatch op expected actual =>
    s!"operator '{op.symbol}' cannot compare {actual.name} with {expected.name}"
  | unordered op => s!"operator '{op.symbol}' has no ordering for bool values"
  | notText op actual => s!"operator '{op.symbol}' requires a string, got {actual.name}"
  | invalidPattern source => s!"invalid regex pattern '{source}'"
  | missingField name => s!"record has no field '{name}'"
  | notScalar => "record cannot be compared as a scalar value"
  | unbound name => s!"field reference '{name}' is not bound to a record"
  | notScalarOperator op =>
    s!"operator '{op.symbol}' does not compare against a single value"
  | mixedList expected actual => s!"list mixes {expected.name} and {actual.name} values"
  | injected message => message

/-- The error with its operator, if it names one, replaced by the complement. -/
def complement : EvalError → EvalError
  | kindMismatch op expected actual => kindMismatch op.complement expected actual
  | unordered op => unordered op.complement
  | notText op actual => notText op.complement actual
  | notScalarOperator op => notScalarOperator op.complement
  | e => e

theorem complement_complement (e : EvalError) : e.complement.complement = e := by
  cases e <;> simp [complement, Operator.complement_complement]

end EvalError

end RecordFilter
