import RecordFilter.Binary.Shortest
import RecordFilter.Kind

/-!
# Values

The primitive values that records hold and expressions name. A value carries its exact
kind, and nothing is ever converted between kinds: values of different kinds are never
equal and have no order.

## Main definitions

* `Value`, with its `Value.kind`
* `Value.equal`: equality as comparisons see it
* `Value.order?`: the order of two values of one kind
* `Scalar`: the types whose members are values of one kind

## Main results

* `Value.kind_eq_of_equal`: equal values have one kind
* `Value.order?_of_kind_ne`: values of different kinds have no order
-/

namespace RecordFilter

/-- A primitive value. -/
inductive Value where
  /-- An integer of a fixed width. -/
  | int (kind : IntKind) (n : Int) (inRange : kind.Contains n)
  | single (x : Binary .single)
  | double (x : Binary .double)
  | bool (b : Bool)
  | text (s : String)
  deriving DecidableEq, Repr

namespace Value

/-- The kind of a value. -/
def kind : Value → Kind
  | int k _ _ => .int k
  | single _ => .single
  | double _ => .double
  | bool _ => .bool
  | text _ => .text

/-- The integer value `n` of kind `k`, if the kind has it. -/
def int? (k : IntKind) (n : Int) : Option Value :=
  if h : k.Contains n then some (int k n h) else none

/-- The text of a text value. -/
def text? : Value → Option String
  | text s => some s
  | _ => none

/-- The truth value of a truth value. -/
def bool? : Value → Option Bool
  | bool b => some b
  | _ => none

/-- Equality as comparisons see it: one kind and one content. Floating-point numbers
compare as numbers, so a value that is not a number differs from itself. -/
def equal : Value → Value → Bool
  | int k n _, int l m _ => k == l && n == m
  | single x, single y => x.equal y
  | double x, double y => x.equal y
  | bool a, bool b => a == b
  | text s, text t => s == t
  | _, _ => false

/-- The order of two values of one kind. Texts are ordered by code points, which is the
order of their UTF-8 bytes. There is no order between kinds, between truth values, or
with a value that is not a number. -/
def order? : Value → Value → Option Ordering
  | int k n _, int l m _ => if k = l then some (compare n m) else none
  | single x, single y => x.order? y
  | double x, double y => x.order? y
  | text s, text t => some (compare s t)
  | _, _ => none

/-- Whether a value is a floating-point value that is not a number. -/
def isNaN : Value → Bool
  | single x => x.isNaN
  | double x => x.isNaN
  | _ => false

theorem kind_eq_of_equal {v w : Value} (h : v.equal w = true) : v.kind = w.kind := by
  cases v <;> cases w <;> simp_all [equal, kind]

theorem order?_of_kind_ne {v w : Value} (h : v.kind ≠ w.kind) : v.order? w = none := by
  cases v <;> cases w <;> simp_all [order?, kind]

theorem kind_int? {k : IntKind} {n : Int} {v : Value} (h : int? k n = some v) :
    v.kind = .int k := by
  unfold int? at h
  split at h
  · cases h; rfl
  · cases h

end Value

/-- An integer of a fixed width. -/
structure FixedInt (k : IntKind) where
  n : Int
  inRange : k.Contains n
  deriving DecidableEq, Repr

/-- The types of which every member is a value of one kind. -/
class Scalar (α : Type) where
  kind : Kind
  toValue : α → Value
  kind_toValue : ∀ x, (toValue x).kind = kind

instance (k : IntKind) : Scalar (FixedInt k) :=
  ⟨.int k, fun x => .int k x.n x.inRange, fun _ => rfl⟩

instance : Scalar (Binary .single) := ⟨.single, .single, fun _ => rfl⟩

instance : Scalar (Binary .double) := ⟨.double, .double, fun _ => rfl⟩

instance : Scalar Bool := ⟨.bool, .bool, fun _ => rfl⟩

instance : Scalar String := ⟨.text, .text, fun _ => rfl⟩

end RecordFilter
