import RecordFilter.Expression.Reading
import RecordFilter.Pattern.Basic
import RecordFilter.Record

/-!
# Described records and a task

A record type that describes itself has a schema, and expressions can be read against it.
A task is such a type; it exposes four of its fields, one of them under another name.
Patterns in its conditions are regular expressions.

## Main definitions

* `Described`: record types with a schema
* `parseFor`: the condition that a text stands for on records of a type
* `Task`
-/

namespace RecordFilter

/-- The record types that describe their fields. -/
class Described (α : Type) extends ToRecord α where
  schema : Schema

/-- The condition that a text stands for, where clauses may name the fields of a type. -/
def parseFor (α : Type) [Described α] (text : String) : Except ParseError Condition :=
  parse (Described.schema α) text

/-- A task. Whether it is done is exposed as `closed`. -/
structure Task where
  name : String
  priority : FixedInt .u8
  done : Bool
  estimate : FixedInt .i64
  deriving DecidableEq, Repr

namespace Task

/-- The exposed fields. -/
def schema : Schema :=
  .ofList [("name", .text), ("priority", .int .u8), ("closed", .bool), ("estimate", .int .i64)]

/-- The value of an exposed field. -/
def field? (t : Task) (name : String) : Option Value :=
  match name with
  | "name" => some (Scalar.toValue t.name)
  | "priority" => some (Scalar.toValue t.priority)
  | "closed" => some (Scalar.toValue t.done)
  | "estimate" => some (Scalar.toValue t.estimate)
  | _ => none

instance : Described Task where
  toRecord t := ⟨t.field?, none⟩
  schema := schema

end Task

end RecordFilter
