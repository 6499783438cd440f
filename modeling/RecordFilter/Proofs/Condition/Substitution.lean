import RecordFilter.Proofs.Condition.Parts
import RecordFilter.Proofs.Condition.ShortCircuit

/-!
# References and what they stand for

A reference in a constraint means a field of the record whose fields are constrained. It does
not matter how deep it stands below connectives and negations: what is examined there is the
value of one field, but the record around it stays the same. So every reference can be replaced
by the value that it stands for, before anything is evaluated, and no outcome changes. Where
the values cannot be compared, the error is the same too.

A value has no fields. So constraints on the fields of a value fail before a reference below
them is looked at, unless there are none, and need no exception.

## Main definitions

* `Condition.withValuesOf`: a condition with values in the place of references
* `Condition.RefersTo`: a comparison in a condition refers to a field

## Main results

* `Condition.eval_withValuesOf`: replacing references below a field
* `Condition.exists_isPart_of_withValuesOf`: where the parts of the result come from
* `Condition.eval_fields_withValuesOf`: replacing all references in constraints
-/

namespace RecordFilter

/-! ### Replacing references -/

/-- A right-hand side, where a reference is replaced by the value of the field in the record.
A reference to a field that the record lacks stays. -/
def Operand.withValuesOf (record : Record) : Operand → Operand
  | reference field =>
    match record.field field with
    | some v => .value v
    | none => .reference field
  | operand => operand

/-- A comparison with a replaced reference. -/
def Comparison.withValuesOf (record : Record) (c : Comparison) : Comparison :=
  { c with operand := c.operand.withValuesOf record }

namespace Condition

mutual

/-- The condition with the values of the record in the place of all references. -/
def withValuesOf (record : Record) : Condition → Condition
  | .always => .always
  | .never => .never
  | .comparison c => .comparison (c.withValuesOf record)
  | .conj terms => .conj (termsWithValuesOf record terms)
  | .disj terms => .disj (termsWithValuesOf record terms)
  | .invert inner => .invert (inner.withValuesOf record)
  | .fields constraints => .fields (constraintsWithValuesOf record constraints)
  | .failure message => .failure message

/-- The terms with values in the place of references. -/
def termsWithValuesOf (record : Record) : List Condition → List Condition
  | [] => []
  | t :: rest => t.withValuesOf record :: termsWithValuesOf record rest

/-- The constraints with values in the place of references, each on the same field. -/
def constraintsWithValuesOf (record : Record) :
    List (String × Condition) → List (String × Condition)
  | [] => []
  | (name, constraint) :: rest =>
    (name, constraint.withValuesOf record) :: constraintsWithValuesOf record rest

end

/-- Some comparison in the condition refers to the field. -/
def RefersTo (c : Condition) (name : String) : Prop :=
  ∃ op, (comparison ⟨op, .reference name⟩).IsPart c

variable {record : Record} {c : Condition}

theorem termsWithValuesOf_eq_map (record : Record) (terms : List Condition) :
    termsWithValuesOf record terms = terms.map (withValuesOf record) := by
  induction terms with
  | nil => rfl
  | cons t rest ih => rw [termsWithValuesOf, ih, List.map_cons]

theorem constraintsWithValuesOf_eq_map (record : Record)
    (constraints : List (String × Condition)) :
    constraintsWithValuesOf record constraints =
      constraints.map fun f => (f.1, f.2.withValuesOf record) := by
  induction constraints with
  | nil => rfl
  | cons f rest ih => rw [constraintsWithValuesOf, ih, List.map_cons]

theorem withValuesOf_node (connective : Connective) (terms : List Condition) :
    (connective.node terms).withValuesOf record =
      connective.node (terms.map (withValuesOf record)) := by
  rw [← termsWithValuesOf_eq_map]
  cases connective <;> rw [Connective.node, Connective.node, withValuesOf]

theorem withValuesOf_fields (constraints : List (String × Condition)) :
    (fields constraints).withValuesOf record =
      fields (constraints.map fun f => (f.1, f.2.withValuesOf record)) := by
  rw [withValuesOf, constraintsWithValuesOf_eq_map]

end Condition

/-! ### Outcomes -/

section

variable [Pattern.Engine]

/-- A reference that is looked up in the record compares like the value that it stands for. -/
theorem Comparison.eval_withValuesOf (leaf : Comparison) (record subject : Record) :
    (leaf.withValuesOf record).eval subject (some record) = leaf.eval subject (some record) := by
  obtain ⟨op, operand⟩ := leaf
  cases operand with
  | value | set | pattern => rfl
  | reference name =>
    cases answered : record.field name with
    | none => simp only [withValuesOf, Operand.withValuesOf, answered]
    | some v => simp only [withValuesOf, Operand.withValuesOf, eval, resolve, answered]

/-- Below a field of the record, a condition has the same outcome with the values of the record
in the place of its references. -/
theorem Condition.eval_withValuesOf (c : Condition) (record : Record) (v : Value) :
    (c.withValuesOf record).eval (.ofValue v) (some record) =
      c.eval (.ofValue v) (some record) := by
  induction c using node_induction with
  | always | never | failure => rw [withValuesOf]
  | comparison leaf =>
    rw [withValuesOf, eval, eval]
    exact leaf.eval_withValuesOf record (.ofValue v)
  | node connective terms ih =>
    rw [withValuesOf_node, eval_node, eval_node, List.map_map]
    congr 1
    exact List.map_congr_left ih
  | invert inner ih =>
    rw [withValuesOf, eval, eval, ih]
  | fields constraints _ =>
    -- a value has none of the fields, so their constraints fail before a reference is reached
    rw [withValuesOf_fields, eval_fields, eval_fields, List.map_map]
    rfl

end

namespace Condition

variable {record : Record}

/-! ### What is left -/

/-- Every part of the result is a part of the condition with its references replaced. -/
theorem exists_isPart_of_withValuesOf {c node : Condition}
    (part : node.IsPart (c.withValuesOf record)) :
    ∃ original : Condition, original.IsPart c ∧ node = original.withValuesOf record := by
  induction c using node_induction with
  | always | never | comparison | failure =>
    cases part
    exact ⟨_, .whole _, by rw [withValuesOf]⟩
  | node connective terms ih =>
    rw [withValuesOf_node, isPart_node_iff] at part
    rcases part with rfl | ⟨t, member, below⟩
    · exact ⟨_, .whole _, (withValuesOf_node connective terms).symm⟩
    · obtain ⟨t, among, rfl⟩ := List.mem_map.mp member
      obtain ⟨original, within, same⟩ := ih t among below
      exact ⟨original, isPart_node_iff.mpr (.inr ⟨t, among, within⟩), same⟩
  | invert inner ih =>
    rw [withValuesOf] at part
    cases part with
    | whole => exact ⟨_, .whole _, by rw [withValuesOf]⟩
    | invert below =>
      obtain ⟨original, within, same⟩ := ih below
      exact ⟨original, .invert within, same⟩
  | fields constraints ih =>
    rw [withValuesOf_fields] at part
    cases part with
    | whole => exact ⟨_, .whole _, (withValuesOf_fields constraints).symm⟩
    | fields member below =>
      obtain ⟨f, among, rfl⟩ := List.mem_map.mp member
      obtain ⟨original, within, same⟩ := ih f among below
      exact ⟨original, .fields among within, same⟩

/-- A reference that is left is one to a field that the record lacks. -/
theorem RefersTo.of_withValuesOf {c : Condition} {name : String}
    (refers : (c.withValuesOf record).RefersTo name) :
    c.RefersTo name ∧ record.field name = none := by
  obtain ⟨op, part⟩ := refers
  obtain ⟨original, within, same⟩ := exists_isPart_of_withValuesOf part
  cases original <;> simp only [withValuesOf, reduceCtorEq, comparison.injEq] at same
  case comparison leaf =>
    obtain ⟨operator, operand⟩ := leaf
    cases operand with
    | value | set | pattern => cases same
    | reference other =>
      cases answered : record.field other with
      | none =>
        rw [Comparison.withValuesOf, Operand.withValuesOf, answered] at same
        cases same
        exact ⟨⟨_, within⟩, answered⟩
      | some v =>
        rw [Comparison.withValuesOf, Operand.withValuesOf, answered] at same
        cases same

/-! ### Constraints on a record -/

/-- Constraints on a record that has all fields they refer to are met, missed, or fail just as
with literal values in the place of the references. No reference is left then. -/
theorem eval_fields_withValuesOf [Pattern.Engine] {constraints : List (String × Condition)}
    (answered : ∀ name, (fields constraints).RefersTo name → ∃ v, record.field name = some v) :
    (∀ scope, (fields constraints).eval record scope =
      ((fields constraints).withValuesOf record).eval record scope) ∧
    ∀ name, ¬ ((fields constraints).withValuesOf record).RefersTo name := by
  constructor
  · intro scope
    rw [withValuesOf_fields, eval_fields, eval_fields, List.map_map]
    congr 1
    apply List.map_congr_left
    intro f _
    rw [Function.comp_apply, constraintOutcome, constraintOutcome]
    dsimp only
    cases record.field f.1 with
    | none => rfl
    | some v => exact (eval_withValuesOf f.2 record v).symm
  · intro name refers
    obtain ⟨before, lacking⟩ := refers.of_withValuesOf
    obtain ⟨v, same⟩ := answered name before
    rw [lacking] at same
    cases same

/-- Below a negation, an equality with one field holds, the next comparison misses and the last
one is with a field of another kind. -/
theorem eval_fields_withValuesOf_of_mismatch :
    ∃ (constraints : List (String × Condition)) (record : Record),
      (∀ name, (fields constraints).RefersTo name → ∃ v, record.field name = some v) ∧
      (fields constraints).eval record none =
        ((fields constraints).withValuesOf record).eval record none ∧
      (∀ name, ¬ ((fields constraints).withValuesOf record).RefersTo name) ∧
      (fields constraints).eval record none = .error (.kindMismatch .lt .text (.int .i64)) := by
  let five : Value := .int .i64 5 (by decide)
  let record := Record.ofFields [("n", five), ("m", five), ("s", .text "x")]
  let below := conj [eq (.reference "m"), disj [gt (.reference "m"), lt (.reference "s")]]
  let constraints := [("n", invert below)]
  have answered : ∀ name, (fields constraints).RefersTo name →
      ∃ v, record.field name = some v := by
    rintro name ⟨op, part⟩
    have among : op = .eq ∧ name = "m" ∨ op = .gt ∧ name = "m" ∨ op = .lt ∧ name = "s" := by
      simpa [constraints, below, eq, gt, lt, scalar, ScalarOperand.toOperand] using part
    rcases among with ⟨-, rfl⟩ | ⟨-, rfl⟩ | ⟨-, rfl⟩ <;> exact ⟨_, rfl⟩
  obtain ⟨same, replaced⟩ := eval_fields_withValuesOf answered
  refine ⟨constraints, record, answered, same none, replaced, ?_⟩
  decide +kernel

end Condition

end RecordFilter
