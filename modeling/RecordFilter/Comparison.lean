import RecordFilter.Pattern.Engine
import RecordFilter.Record
import RecordFilter.ValueSet

/-!
# Comparisons

A comparison holds a scalar against an operand with one operator. It never converts:
equality across kinds is false, order across kinds is an error, a value of another kind
is simply not in a list, and a pattern needs a text.

## Main definitions

* `Operand`: the right-hand side of a comparison
* `Comparison`, with `Comparison.complement`
* `Comparison.eval`: the outcome of a comparison on a record
* `Comparison.WellPaired`: the operator fits the operand

## Main results

* `compareValues_eq_of_isOrdering`: the ordering operators, taken together
-/

namespace RecordFilter

/-- The right-hand side of a comparison. -/
inductive Operand where
  | value (v : Value)
  | set (s : ValueSet)
  | pattern (p : Pattern)
  /-- The value of another field of the record at hand. -/
  | reference (field : String)
  deriving DecidableEq, Repr

/-- The values that are written in a right-hand side. -/
def Operand.values : Operand → List Value
  | value v => [v]
  | set s => s.values
  | pattern _ | reference _ => []

/-- A single value, or a reference to one: what a scalar operator takes. -/
inductive ScalarOperand where
  | value (v : Value)
  | reference (field : String)
  deriving DecidableEq, Repr

/-- A single value as a right-hand side. -/
def ScalarOperand.toOperand : ScalarOperand → Operand
  | value v => .value v
  | reference field => .reference field

/-- The value that a reference to a field yields. It needs a record around it, and the
record needs the field. -/
def resolve (scope : Option Record) (field : String) : Except EvalError Value :=
  match scope with
  | none => .error (.unbound field)
  | some record =>
    match record.field field with
    | none => .error (.missingField field)
    | some v => .ok v

/-- The outcome of a scalar operator on two values. -/
def compareValues (op : Operator) (subject operand : Value) : Except EvalError Bool :=
  match op with
  | .eq => .ok (subject.equal operand)
  | .ne => .ok (!subject.equal operand)
  | .lt | .le | .gt | .ge =>
    if subject.kind ≠ operand.kind then
      .error (.kindMismatch op operand.kind subject.kind)
    else if !subject.kind.isOrdered then .error (.unordered op)
    else .ok (op.holds (subject.order? operand))
  | .isIn | .notIn | .isMatch | .notMatch => .error (.notScalarOperator op)

/-- What an ordering operator says of two values. -/
theorem compareValues_eq_of_isOrdering {op : Operator} (ordering : op.isOrdering = true)
    (subject operand : Value) :
    compareValues op subject operand =
      if subject.kind ≠ operand.kind then .error (.kindMismatch op operand.kind subject.kind)
      else if !subject.kind.isOrdered then .error (.unordered op)
      else .ok (op.holds (subject.order? operand)) := by
  cases op with
  | lt | le | gt | ge => rfl
  | eq | ne | isIn | notIn | isMatch | notMatch => cases ordering

/-- Whether a value is a text that a pattern occurs in. A malformed pattern is reported
before a value of the wrong kind. -/
def searchValue [Pattern.Engine] (op : Operator) (subject : Value) (p : Pattern) :
    Except EvalError Bool :=
  match Pattern.Engine.search? p with
  | none => .error (.invalidPattern p.source)
  | some occursIn =>
    match subject.text? with
    | none => .error (.notText op subject.kind)
    | some text => .ok (occursIn text)

/-- An operator and its right-hand side. The left-hand side is the record itself. -/
structure Comparison where
  op : Operator
  operand : Operand
  deriving DecidableEq, Repr

namespace Comparison

/-- The comparison that holds exactly when this one does not. -/
def complement (c : Comparison) : Comparison := { c with op := c.op.complement }

/-- The outcome of a comparison on a scalar record. `scope` is the record whose field is
being examined, if there is one. -/
def eval [Pattern.Engine] (c : Comparison) (record : Record) (scope : Option Record) :
    Except EvalError Bool :=
  match record.scalar with
  | none => .error .notScalar
  | some subject =>
    match c.operand with
    | .value v => compareValues c.op subject v
    | .reference field =>
      match resolve scope field with
      | .error e => .error e
      | .ok v => compareValues c.op subject v
    | .set s => .ok (s.contains subject != c.op.isNegative)
    | .pattern p =>
      match searchValue c.op subject p with
      | .error e => .error e
      | .ok hit => .ok (hit != c.op.isNegative)

/-- Operators and operands fit: scalar operators take a value or a reference, membership
takes a list of one kind, and search takes a pattern. -/
def WellPaired (c : Comparison) : Prop :=
  match c.operand with
  | .value _ | .reference _ => c.op.isScalar = true
  | .set s => c.op.isMembership = true ∧ s.Uniform
  | .pattern _ => c.op.isPattern = true

theorem complement_complement (c : Comparison) : c.complement.complement = c := by
  simp [complement, Operator.complement_complement]

end Comparison

/-- Equality of right-hand sides: values compare as values, patterns by their source. -/
def Operand.equal : Operand → Operand → Bool
  | value v, value w => v.equal w
  | set s, set t => s.equal t
  | pattern p, pattern q => p.source == q.source
  | reference f, reference g => f == g
  | _, _ => false

/-- Equality of comparisons. -/
def Comparison.equal (c d : Comparison) : Bool := c.op == d.op && c.operand.equal d.operand

end RecordFilter
