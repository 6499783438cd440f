import RecordFilter.Condition.Eval
import RecordFilter.Pattern.Basic
import RecordFilter.Proofs.Text.ByteOrder

/-!
# The order of values

Values of one kind, other than truth values, are in a line, and only floating-point values that are
not numbers stand beside it. The order and the equality of values are two definitions, of which the
one looks at the place in the line and the other at the content. They never part: two values are in
the same place exactly if they are equal. So of two values that have an order, exactly one of less,
equal and greater holds, and all six scalar operators say what this order says.

## Main definitions

* `ScalarOperand.resolve`: the value that an operand stands for

## Main results

* `Value.order?_swap`, `Value.order?_trans`: the order is one of a line
* `Value.order?_eq_some_eq_iff`: the same place is equality
* `Value.order?_eq_none_iff`: which values have no order
* `compareValues_eq_holds`: scalar operators say what the order says
* `Value.order?_laws`: the order and the six operators together
-/

namespace RecordFilter

/-- Of two steps of which none goes down, the first one that goes up decides. -/
theorem compare_trans {α : Type} [Ord α] [Std.TransOrd α] {a b c : α} {o p : Ordering}
    (first : compare a b = o) (second : compare b c = p) (firstUp : o ≠ .gt)
    (secondUp : p ≠ .gt) : compare a c = o.then p := by
  cases o with
  | gt => exact absurd rfl firstUp
  | lt =>
    cases p with
    | gt => exact absurd rfl secondUp
    | lt => exact Std.TransCmp.lt_trans first second
    | eq => exact Std.TransCmp.lt_of_lt_of_eq first second
  | eq =>
    cases p with
    | gt => exact absurd rfl secondUp
    | lt => exact Std.TransCmp.lt_of_eq_of_lt first second
    | eq => exact Std.TransCmp.eq_trans first second

/-! ### Binary numbers -/

namespace Binary

variable {F : Format} {x y z : Binary F} {o p : Ordering}

/-- Two values have an order exactly if both are numbers, and then it is that of their places. -/
theorem order?_eq_some_iff :
    x.order? y = some o ↔ x.isNaN = false ∧ y.isNaN = false ∧ compare x.place y.place = o := by
  cases xNaN : x.isNaN <;> cases yNaN : y.isNaN <;> simp [order?, xNaN, yNaN]

theorem order?_swap (x y : Binary F) : y.order? x = (x.order? y).map Ordering.swap := by
  rw [order?, order?, Bool.or_comm]
  split
  · rfl
  · exact congrArg some Std.OrientedOrd.eq_swap

theorem order?_trans (first : x.order? y = some o) (second : y.order? z = some p)
    (firstUp : o ≠ .gt) (secondUp : p ≠ .gt) : x.order? z = some (o.then p) := by
  obtain ⟨xNumber, -, xy⟩ := order?_eq_some_iff.mp first
  obtain ⟨-, zNumber, yz⟩ := order?_eq_some_iff.mp second
  exact order?_eq_some_iff.mpr ⟨xNumber, zNumber, compare_trans xy yz firstUp secondUp⟩

theorem order?_eq_some_eq_iff : x.order? y = some .eq ↔ x.equal y = true := by
  rw [order?_eq_some_iff, Int.compare_eq_eq]
  simp [equal, and_assoc]

end Binary

/-! ### Values -/

namespace Value

variable {v w x : Value} {o p : Ordering}

/-- The first value stands to the second one in the given order. Both are of one kind, which has
an order, and what they hold decides. -/
inductive Stands : Value → Value → Ordering → Prop
  | int {k : IntKind} {n m : Int} {nInRange : k.Contains n} {mInRange : k.Contains m}
      {o : Ordering} (order : compare n m = o) : Stands (.int k n nInRange) (.int k m mInRange) o
  | single {x y : Binary .single} {o : Ordering} (order : x.order? y = some o) :
      Stands (.single x) (.single y) o
  | double {x y : Binary .double} {o : Ordering} (order : x.order? y = some o) :
      Stands (.double x) (.double y) o
  | text {s t : String} {o : Ordering} (order : compare s t = o) : Stands (.text s) (.text t) o

/-- The order that two values have is the one in which they stand. -/
theorem order?_eq_some_iff : v.order? w = some o ↔ Stands v w o := by
  constructor
  · intro found
    unfold order? at found
    split at found
    · next k n _ l m _ =>
      split at found
      · next same =>
        subst same
        exact .int (Option.some.inj found)
      · cases found
    · exact .single found
    · exact .double found
    · exact .text (Option.some.inj found)
    · cases found
  · intro stands
    cases stands with
    | int order => rw [order?, if_pos rfl, order]
    | single order | double order => exact order
    | text order => rw [order?, order]

/-- The other way round, values stand in the reverse order. -/
theorem Stands.swap (stands : Stands v w o) : Stands w v o.swap := by
  cases stands with
  | int order => exact .int (by rw [← order, Int.compare_swap])
  | single order => exact .single (by rw [Binary.order?_swap, order, Option.map_some])
  | double order => exact .double (by rw [Binary.order?_swap, order, Option.map_some])
  | text order => exact .text (by rw [← order, ← Std.OrientedOrd.eq_swap])

/-- Of two steps of which none goes down, the first one that goes up decides. -/
theorem Stands.trans (first : Stands v w o) (second : Stands w x p) (firstUp : o ≠ .gt)
    (secondUp : p ≠ .gt) : Stands v x (o.then p) := by
  -- a second step from where the first one ends is of the same kind
  cases first with
  | int order => cases second with
    | int next => exact .int (compare_trans order next firstUp secondUp)
  | single order => cases second with
    | single next => exact .single (Binary.order?_trans order next firstUp secondUp)
  | double order => cases second with
    | double next => exact .double (Binary.order?_trans order next firstUp secondUp)
  | text order => cases second with
    | text next => exact .text (compare_trans order next firstUp secondUp)

theorem order?_swap (v w : Value) : w.order? v = (v.order? w).map Ordering.swap := by
  refine Option.ext fun o => ?_
  rw [order?_eq_some_iff, Option.map_eq_some_iff]
  constructor
  · intro stands
    exact ⟨o.swap, order?_eq_some_iff.mpr stands.swap, Ordering.swap_swap⟩
  · rintro ⟨p, found, rfl⟩
    exact (order?_eq_some_iff.mp found).swap

theorem order?_trans (first : v.order? w = some o) (second : w.order? x = some p)
    (firstUp : o ≠ .gt) (secondUp : p ≠ .gt) : v.order? x = some (o.then p) :=
  order?_eq_some_iff.mpr ((order?_eq_some_iff.mp first).trans (order?_eq_some_iff.mp second)
    firstUp secondUp)

/-- Values stand in the same place exactly if they are equal, truth values apart. -/
theorem order?_eq_some_eq_iff (ordered : v.kind ≠ .bool) :
    v.order? w = some .eq ↔ v.equal w = true := by
  rw [order?_eq_some_iff]
  constructor
  · intro stands
    cases stands with
    | int order => simp [equal, Int.compare_eq_eq.mp order]
    | single order | double order => exact Binary.order?_eq_some_eq_iff.mp order
    | text order => simp [equal, Std.LawfulEqOrd.compare_eq_iff_eq.mp order]
  · intro same
    unfold equal at same
    split at same
    · simp only [Bool.and_eq_true, beq_iff_eq] at same
      obtain ⟨rfl, rfl⟩ := same
      exact .int (Int.compare_eq_eq.mpr rfl)
    · exact .single (Binary.order?_eq_some_eq_iff.mpr same)
    · exact .double (Binary.order?_eq_some_eq_iff.mpr same)
    · exact absurd rfl ordered
    · obtain rfl := eq_of_beq same
      exact .text (Std.LawfulEqOrd.compare_eq_iff_eq.mpr rfl)
    · cases same

/-- Values have no order exactly if their kinds differ, if their kind has none, or if one of them
is not a number. -/
theorem order?_eq_none_iff :
    v.order? w = none ↔
      v.kind ≠ w.kind ∨ v.kind = .bool ∨ v.isNaN = true ∨ w.isNaN = true := by
  cases v <;> cases w <;> simp [order?, kind, isNaN, Binary.order?_eq_none_iff]

/-- Of two texts, the one that is less has the lesser bytes. -/
theorem order?_text_eq_some_lt_iff {s t : String} :
    (text s).order? (text t) = some .lt ↔ Text.utf8Bytes s < Text.utf8Bytes t := by
  rw [← Text.lt_iff_utf8Bytes_lt, order?, Option.some_inj, compare_lt_iff_lt]

theorem Stands.kind_eq (stands : Stands v w o) : v.kind = w.kind := by
  cases stands <;> rfl

theorem Stands.isOrdered (stands : Stands v w o) : v.kind.isOrdered = true := by
  cases stands <;> rfl

end Value

/-! ### Operators -/

/-- Of two values that have an order, a scalar operator says what it says of that order. -/
theorem compareValues_eq_holds {op : Operator} (isScalar : op.isScalar = true) {v w : Value}
    {o : Ordering} (order : v.order? w = some o) :
    compareValues op v w = .ok (op.holds (some o)) := by
  have stands := Value.order?_eq_some_iff.mp order
  have equality : v.equal w = (some o == some .eq) := by
    have ordered : v.kind ≠ .bool := fun isBool => by
      have kindOrdered := stands.isOrdered
      rw [isBool] at kindOrdered
      cases kindOrdered
    rw [Bool.eq_iff_iff, ← Value.order?_eq_some_eq_iff ordered, order, beq_iff_eq]
  by_cases ordering : op.isOrdering = true
  · rw [compareValues_eq_of_isOrdering ordering, if_neg (not_not_intro stands.kind_eq),
      stands.isOrdered, order]
    rfl
  · cases op with
    | lt | le | gt | ge => exact absurd rfl ordering
    | isIn | notIn | isMatch | notMatch => cases isScalar
    | eq => rw [compareValues, equality, Operator.holds]
    | ne => rw [compareValues, equality, Operator.holds]

/-- The value that an operand stands for, given the record that references are about. -/
def ScalarOperand.resolve (scope : Option Record) : ScalarOperand → Except EvalError Value
  | value v => .ok v
  | reference field => RecordFilter.resolve scope field

/-- A scalar comparison compares the record with what its operand stands for. -/
theorem Condition.eval_scalar [Pattern.Engine] {record : Record} {scope : Option Record}
    {operand : ScalarOperand} {v w : Value} (subject : record.scalar = some v) (stands : operand.resolve scope = .ok w)
    (op : Operator) : (scalar op operand).eval record scope = compareValues op v w := by
  rw [scalar, eval, Comparison.eval, subject]
  cases operand with
  | value u =>
    obtain rfl := Except.ok.inj stands
    rfl
  | reference field =>
    have found : RecordFilter.resolve scope field = .ok w := stands
    simp only [ScalarOperand.toOperand, found]

namespace Value

open Condition (lt le gt ge eq)

/-- The order of values is that of a line, and equality and operators follow it. The other way
round it is reversed; less and equal compose; truth values apart, the same place is equality; and
there is no order exactly between different kinds, between truth values, and with a value that is
not a number. Texts are ordered by their bytes. Where there is an order, exactly one of less, equal
and greater holds of a record and an operand, the two other operators are what they are called, and
greater is the same as less after an exchange of both sides. -/
theorem order?_laws [Pattern.Engine] (v w x : Value) :
    w.order? v = (v.order? w).map Ordering.swap ∧
    (∀ o p, v.order? w = some o → w.order? x = some p → o ≠ .gt → p ≠ .gt →
      v.order? x = some (o.then p)) ∧
    (v.kind ≠ .bool → (v.order? w = some .eq ↔ v.equal w = true)) ∧
    (v.order? w = none ↔
      v.kind ≠ w.kind ∨ v.kind = .bool ∨ v.isNaN = true ∨ w.isNaN = true) ∧
    (∀ s t, v = .text s → w = .text t →
      (v.order? w = some .lt ↔ Text.utf8Bytes s < Text.utf8Bytes t)) ∧
    (v.kind = w.kind → v.kind ≠ .bool → v.isNaN = false → w.isNaN = false →
      ∀ record scope operand other around otherOperand,
        record.scalar = some v → operand.resolve scope = .ok w →
        other.scalar = some w → otherOperand.resolve around = .ok v →
        ∃ less equal greater : Bool, [less, equal, greater].count true = 1 ∧
          (lt operand).eval record scope = .ok less ∧
          (eq operand).eval record scope = .ok equal ∧
          (gt operand).eval record scope = .ok greater ∧
          (le operand).eval record scope = .ok (less || equal) ∧
          (ge operand).eval record scope = .ok (greater || equal) ∧
          (lt otherOperand).eval other around = .ok greater) := by
  refine ⟨order?_swap v w, fun o p => order?_trans, order?_eq_some_eq_iff, order?_eq_none_iff, ?_,
    ?_⟩
  · rintro s t rfl rfl
    exact order?_text_eq_some_lt_iff
  · intro sameKind ordered vNumber wNumber record scope operand other around otherOperand subject
      stands otherSubject otherStands
    obtain ⟨o, order⟩ : ∃ o, v.order? w = some o := by
      apply Option.ne_none_iff_exists'.mp
      rw [ne_eq, order?_eq_none_iff]
      simp only [not_or, Bool.not_eq_true]
      exact ⟨not_not_intro sameKind, ordered, vNumber, wNumber⟩
    have reversed : w.order? v = some o.swap := by rw [order?_swap, order, Option.map_some]
    refine ⟨o == .lt, o == .eq, o == .gt, by cases o <;> rfl, ?_⟩
    simp only [lt, eq, gt, le, ge, Condition.eval_scalar subject stands,
      Condition.eval_scalar otherSubject otherStands]
    rw [compareValues_eq_holds rfl order, compareValues_eq_holds rfl order,
      compareValues_eq_holds rfl order, compareValues_eq_holds rfl order,
      compareValues_eq_holds rfl order, compareValues_eq_holds rfl reversed]
    cases o <;> exact ⟨rfl, rfl, rfl, rfl, rfl, rfl⟩

/-- The two zeros are in one place, below infinity. The second zero is a field of the record
around. -/
theorem order?_laws_of_zeros :
    ∃ (v w x : Value) (record other : Record) (scope : Option Record) (operand : ScalarOperand),
      v ≠ w ∧ v.order? w = some .eq ∧ w.order? x = some .lt ∧ v.order? x = some .lt ∧
      v.equal w = true ∧ v.kind = w.kind ∧ v.kind ≠ .bool ∧ v.isNaN = false ∧ w.isNaN = false ∧
      record.scalar = some v ∧ operand.resolve scope = .ok w ∧ other.scalar = some w ∧
      (eq operand).eval record scope = .ok true ∧ (le operand).eval record scope = .ok true ∧
      (lt (.value v)).eval other none = .ok false := by
  let v : Value := .double (.ofBits _ 0x8000000000000000)
  let w : Value := .double (.ofBits _ 0)
  let x : Value := .double (.ofBits _ 0x7ff0000000000000)
  let scope := some (Record.ofFields [("zero", w)])
  have level : v.order? w = some .eq := by decide +kernel
  have up : w.order? x = some .lt := by decide +kernel
  obtain ⟨-, compose, equality, -, -, operators⟩ := order?_laws v w x
  have ordered : v.kind ≠ .bool := by decide
  have vNumber : v.isNaN = false := by decide +kernel
  have wNumber : w.isNaN = false := by decide +kernel
  obtain ⟨less, equal, greater, one, -, same, -, atMost, -, exchanged⟩ :=
    operators rfl ordered vNumber wNumber (.ofValue v) scope (.reference "zero") (.ofValue w) none
      (.value v) rfl rfl rfl rfl
  have holds : (eq (.reference "zero")).eval (.ofValue v) scope = .ok true := by decide +kernel
  obtain rfl : equal = true := Except.ok.inj (same.symm.trans holds)
  obtain rfl : greater = false := by
    cases greater with
    | false => rfl
    | true => cases less <;> cases one
  rw [Bool.or_true] at atMost
  exact ⟨v, w, x, .ofValue v, .ofValue w, scope, .reference "zero", by decide +kernel, level, up,
    compose _ _ level up (by decide) (by decide), (equality ordered).mp level, rfl, ordered,
    vNumber, wNumber, rfl, rfl, rfl, same, atMost, exchanged⟩

end Value

end RecordFilter
