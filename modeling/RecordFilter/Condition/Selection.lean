import RecordFilter.Condition.Eval

/-!
# Selecting from collections

A condition applied to a list of records. Every operation looks at the records in order
and stops at the first one on which the condition fails.

## Main definitions

* `Condition.filter`, `Condition.count`: the records of which the condition holds
* `Condition.position`, `Condition.find`, `Condition.anyMatch`: the first such record
* `Condition.allMatch`
-/

namespace RecordFilter.Condition

variable [Pattern.Engine] {α : Type} [ToRecord α]

/-- The records of which the condition holds, in order. -/
def filter (c : Condition) : List α → Except EvalError (List α)
  | [] => .ok []
  | x :: rest => do
    let hit ← c.holds (ToRecord.toRecord x)
    let kept ← c.filter rest
    return if hit then x :: kept else kept

/-- How many records the condition holds of. -/
def count (c : Condition) : List α → Except EvalError Nat
  | [] => .ok 0
  | x :: rest => do
    let hit ← c.holds (ToRecord.toRecord x)
    let number ← c.count rest
    return if hit then number + 1 else number

/-- The index of the first record of which the condition holds. Later records are not
looked at. -/
def position (c : Condition) : List α → Except EvalError (Option Nat)
  | [] => .ok none
  | x :: rest => do
    if ← c.holds (ToRecord.toRecord x) then return some 0
    return (← c.position rest).map (· + 1)

/-- The first record of which the condition holds. -/
def find (c : Condition) (items : List α) : Except EvalError (Option α) :=
  (c.position items).map fun index => index.bind fun i => items[i]?

/-- Whether the condition holds of some record. -/
def anyMatch (c : Condition) (items : List α) : Except EvalError Bool :=
  (c.position items).map Option.isSome

/-- Whether the condition holds of every record, up to the first of which it does not. -/
def allMatch (c : Condition) : List α → Except EvalError Bool
  | [] => .ok true
  | x :: rest => do
    if ← c.holds (ToRecord.toRecord x) then c.allMatch rest else return false

end RecordFilter.Condition
