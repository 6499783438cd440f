import RecordFilter.EvalError
import RecordFilter.Value

/-!
# Lists of values

The list of a membership comparison. All its values have one kind. Membership is decided
by keys: values of one kind are equal exactly if they have the same key, and a value that
is not a number has none. One sort of key serves all integer kinds, and the bits of a number
in double precision serve both floating-point kinds.

## Main definitions

* `Binary.key?`, `Value.key?`: what decides membership
* `ValueSet`, built by `ValueSet.ofValues` and `ValueSet.ofScalars`
* `ValueSet.contains`: membership
-/

namespace RecordFilter

/-- What decides membership in a list of values of one kind. -/
inductive MemberKey where
  | integer (n : Int)
  /-- A number in double precision. -/
  | bits (b : Nat)
  | truth (b : Bool)
  | text (s : String)
  deriving DecidableEq, Repr

/-- The key of a number in double precision is its bits, where both zeros have those of the
positive one. -/
def Binary.key? (x : Binary .double) : Option MemberKey :=
  if x.isNaN then none else if x.place = 0 then some (.bits 0) else some (.bits x.toBits)

/-- The key of a value. Single precision is widened first. -/
def Value.key? : Value → Option MemberKey
  | .int _ n _ => some (.integer n)
  | .single x => x.widen.key?
  | .double x => x.key?
  | .bool b => some (.truth b)
  | .text s => some (.text s)

/-- The list of a membership comparison, in the order given and with its repetitions. -/
structure ValueSet where
  values : List Value
  deriving DecidableEq, Repr

namespace ValueSet

/-- The kind of the values; an empty list has none. -/
def kind? (s : ValueSet) : Option Kind := s.values.head?.map Value.kind

/-- The keys of the members. -/
def index (s : ValueSet) : List MemberKey := s.values.filterMap Value.key?

/-- The list of the given values. They must have the kind of the first one. -/
def ofValues (values : List Value) : Except EvalError ValueSet :=
  match values with
  | [] => .ok ⟨[]⟩
  | first :: rest =>
    match rest.find? fun v => v.kind != first.kind with
    | some other => .error (.mixedList first.kind other.kind)
    | none => .ok ⟨first :: rest⟩

/-- The list of some members of one scalar type. -/
def ofScalars {α : Type} [Scalar α] (members : List α) : ValueSet :=
  ⟨members.map Scalar.toValue⟩

/-- Membership. A value of another kind is no member, and that is no error. -/
def contains (s : ValueSet) (v : Value) : Bool :=
  s.kind? == some v.kind &&
    match v.key? with
    | some key => s.index.contains key
    | none => false

/-- Equality of lists: the same values in the same order. -/
def equal (s t : ValueSet) : Bool := s.values.isEqv t.values Value.equal

/-- The values of a list are of one kind, which is the recorded one. -/
def Uniform (s : ValueSet) : Prop := ∀ v ∈ s.values, s.kind? = some v.kind

theorem kind?_eq_none_iff (s : ValueSet) : s.kind? = none ↔ s.values = [] := by
  simp [kind?]

/-- What can be built holds values of one kind. -/
theorem uniform_of_ofValues {values : List Value} {s : ValueSet}
    (h : ofValues values = .ok s) : s.Uniform ∧ s.values = values := by
  unfold ofValues at h
  split at h
  · cases h
    exact ⟨fun v member => absurd member List.not_mem_nil, rfl⟩
  · next first rest =>
    split at h
    · cases h
    · next same =>
      cases h
      refine ⟨fun v member => ?_, rfl⟩
      rcases List.mem_cons.mp member with rfl | tail
      · rfl
      · have kindEq : v.kind = first.kind := by
          simpa using List.find?_eq_none.mp same v tail
        exact congrArg some kindEq.symm

/-- Members of one scalar type have one kind. -/
theorem uniform_ofScalars {α : Type} [Scalar α] (members : List α) :
    (ofScalars members).Uniform := by
  intro v member
  obtain ⟨x, _, rfl⟩ := List.mem_map.mp member
  cases members with
  | nil => exact absurd member List.not_mem_nil
  | cons first rest => exact congrArg some (by rw [Scalar.kind_toValue, Scalar.kind_toValue])

end ValueSet

end RecordFilter
