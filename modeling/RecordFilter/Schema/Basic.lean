import RecordFilter.Kind
import RecordFilter.NameTable

/-!
# Schemas

The fields that an expression may name, and the kind of each. A schema is a table in
increasing order of names.

## Main definitions

* `Schema`, with `Schema.insert`, `Schema.kind?` and `Schema.ofList`
-/

namespace RecordFilter

/-- The names and kinds of fields. -/
structure Schema where
  fields : List (String × Kind)
  deriving DecidableEq, Repr

namespace Schema

/-- The schema without fields. -/
def empty : Schema := ⟨[]⟩

/-- The kind of a field. -/
def kind? (s : Schema) (name : String) : Option Kind := NameTable.find? name s.fields

/-- Whether a name is a field. -/
def contains (s : Schema) (name : String) : Bool := (s.kind? name).isSome

/-- Adds a field, or replaces the kind it has. -/
def withField (s : Schema) (name : String) (kind : Kind) : Schema :=
  ⟨NameTable.insert name kind s.fields⟩

/-- Adds a field, or replaces the kind it has, and tells the kind it had. -/
def insert (s : Schema) (name : String) (kind : Kind) : Option Kind × Schema :=
  (s.kind? name, s.withField name kind)

/-- The number of fields. -/
def size (s : Schema) : Nat := s.fields.length

/-- Whether there are no fields. -/
def isEmpty (s : Schema) : Bool := s.fields.isEmpty

/-- The schema of the given fields. Of two fields with one name the later counts. -/
def ofList (fields : List (String × Kind)) : Schema := ⟨NameTable.ofList fields⟩

theorem kind?_withField (s : Schema) (name other : String) (kind : Kind) :
    (s.withField name kind).kind? other = if other = name then some kind else s.kind? other :=
  NameTable.find?_insert name other kind s.fields

end Schema

end RecordFilter
