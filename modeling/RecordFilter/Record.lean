import RecordFilter.Value

/-!
# Records

What a condition can be evaluated against. A record answers the names of its fields, and
it may be a scalar, that is a value itself; it may be both. Conditions know nothing else
of a record.

## Main definitions

* `Record`
* `Record.ofValue`, `Record.ofFields`: scalars and field tables
* `ToRecord`: the types whose members can be taken as records
-/

namespace RecordFilter

/-- A record as conditions see it. -/
structure Record where
  /-- The value of a field, or nothing if the record has no such field. -/
  field : String → Option Value
  /-- The record itself as a value, if it is a scalar. -/
  scalar : Option Value

namespace Record

/-- A value is a scalar without fields. -/
def ofValue (v : Value) : Record where
  field _ := none
  scalar := some v

/-- A table of named values has fields and is no scalar. -/
def ofFields (fields : List (String × Value)) : Record where
  field name := fields.lookup name
  scalar := none

/-- A table of named values that is a scalar, too. -/
def withScalar (v : Value) (r : Record) : Record := { r with scalar := some v }

end Record

/-- The types whose members can be taken as records. -/
class ToRecord (α : Type) where
  toRecord : α → Record

instance : ToRecord Record := ⟨id⟩

instance : ToRecord Value := ⟨Record.ofValue⟩

/-- A member of a scalar type is the value that it stands for. -/
instance {α : Type} [Scalar α] : ToRecord α := ⟨fun x => .ofValue (Scalar.toValue x)⟩

namespace Record

@[simp] theorem ofValue_scalar (v : Value) : (ofValue v).scalar = some v := rfl

@[simp] theorem ofValue_field (v : Value) (name : String) : (ofValue v).field name = none := rfl

@[simp] theorem ofFields_scalar (fields : List (String × Value)) :
    (ofFields fields).scalar = none := rfl

end Record

end RecordFilter
