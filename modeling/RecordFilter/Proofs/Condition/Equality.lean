import RecordFilter.Condition.Equality
import RecordFilter.Proofs.Condition.Membership
import RecordFilter.Proofs.Condition.Parts
import RecordFilter.Proofs.Condition.ShortCircuit

/-!
# Laws of equality

Equal conditions cannot be told apart by any record. Equality compares leaf by leaf, and values
that are equal without being identical, such as the two zeros, are equal to the same values,
have one order with every other value and have one key in a list.

Equality is symmetric and transitive. It is not reflexive, because a value that is not a number
differs from itself: a condition equals itself exactly if no such value is written in it.

## Main results

* `Condition.equal_induction`: what equality of the leaves lifts to the trees
* `Comparison.eval_eq_of_equal`, `Condition.eval_eq_of_equal`: equal conditions have equal outcomes
* `Condition.partialEquivalence_equal`: the laws of equality together
-/

namespace RecordFilter

/-! ### Rows -/

section

variable {α β γ : Type}

/-- The library's comparison of two lists, as a relation. -/
theorem isEqv_eq_true_iff {same : α → α → Bool} {xs ys : List α} :
    xs.isEqv ys same = true ↔ List.Forall₂ (fun x y => same x y = true) xs ys := by
  induction xs generalizing ys with
  | nil => cases ys <;> simp
  | cons x xs ih => cases ys <;> simp [List.isEqv_cons_cons, ih]

/-- Rows that are related one by one to a row between them are related one by one. -/
theorem forall₂_trans {R : α → β → Prop} {S : β → γ → Prop} {T : α → γ → Prop} {xs : List α}
    {ys : List β} {zs : List γ} (trans : ∀ x y z, R x y → S y z → T x z)
    (first : List.Forall₂ R xs ys) (second : List.Forall₂ S ys zs) : List.Forall₂ T xs zs := by
  induction first generalizing zs with
  | nil =>
    cases second
    exact .nil
  | cons related _ ih =>
    cases second with
    | cons next later => exact .cons (trans _ _ _ related next) (ih later)

theorem map_eq_map_of_forall₂ {f : α → γ} {g : β → γ} {xs : List α} {ys : List β}
    (related : List.Forall₂ (fun x y => f x = g y) xs ys) : xs.map f = ys.map g := by
  induction related with
  | nil => rfl
  | cons same _ ih => rw [List.map_cons, List.map_cons, same, ih]

end

/-! ### Values -/

namespace Value

variable {v w : Value}

theorem equal_comm (v w : Value) : v.equal w = w.equal v := by
  cases v <;> cases w <;> simp only [equal]
  case int =>
    rw [Bool.eq_iff_iff]
    simp only [Bool.and_eq_true, beq_iff_eq]
    exact and_congr eq_comm eq_comm
  case single x y => rw [Binary.equal, Binary.equal, Bool.and_comm (!x.isNaN), Bool.beq_comm]
  case double x y => rw [Binary.equal, Binary.equal, Bool.and_comm (!x.isNaN), Bool.beq_comm]
  case bool | text => exact Bool.beq_comm

/-- Only a value that is not a number differs from itself. -/
theorem equal_self_iff (v : Value) : v.equal v = true ↔ v.isNaN = false := by
  cases v <;> simp [equal, isNaN, Binary.equal]

/-- Equal values have one order with every other value. -/
theorem order?_congr (same : v.equal w = true) (x : Value) : x.order? v = x.order? w := by
  cases v <;> cases w <;> simp only [equal, reduceCtorEq] at same
  case int =>
    simp only [Bool.and_eq_true, beq_iff_eq] at same
    obtain ⟨rfl, rfl⟩ := same
    cases x <;> rfl
  -- equal numbers may differ in their sign, but the order looks at their places
  case single y z =>
    simp only [Binary.equal, Bool.and_eq_true, Bool.not_eq_true', beq_iff_eq] at same
    obtain ⟨⟨yNumber, zNumber⟩, place⟩ := same
    cases x <;> simp [order?, Binary.order?, yNumber, zNumber, place]
  case double y z =>
    simp only [Binary.equal, Bool.and_eq_true, Bool.not_eq_true', beq_iff_eq] at same
    obtain ⟨⟨yNumber, zNumber⟩, place⟩ := same
    cases x <;> simp [order?, Binary.order?, yNumber, zNumber, place]
  case bool => cases x <;> rfl
  case text =>
    obtain rfl := eq_of_beq same
    rfl

/-- Equal values have one key. -/
theorem key?_congr (same : v.equal w = true) : v.key? = w.key? := by
  obtain ⟨key, first, second⟩ := (exists_key?_iff (kind_eq_of_equal same)).mpr same
  rw [first, second]

end Value

/-- No scalar operator tells equal values apart. -/
theorem compareValues_congr {v w : Value} (same : v.equal w = true) (op : Operator)
    (subject : Value) : compareValues op subject v = compareValues op subject w := by
  have equality : subject.equal v = subject.equal w := by
    rw [Value.equal_comm subject, Value.equal_comm subject, Value.equal_congr same]
  simp only [compareValues, equality, Value.kind_eq_of_equal same, Value.order?_congr same]

/-! ### Lists -/

namespace ValueSet

variable {s t : ValueSet}

theorem equal_iff :
    s.equal t = true ↔ List.Forall₂ (fun v w => v.equal w = true) s.values t.values :=
  isEqv_eq_true_iff

/-- Equal lists have one kind and the same keys, so nothing would change if equality compared
these, too. -/
theorem kind?_eq_and_index_eq (same : s.equal t = true) :
    s.kind? = t.kind? ∧ s.index = t.index := by
  obtain ⟨values⟩ := s
  obtain ⟨others⟩ := t
  have related : List.Forall₂ (fun v w => v.equal w = true) values others := equal_iff.mp same
  clear same
  constructor
  · cases related with
    | nil => rfl
    | cons first _ => exact congrArg some (Value.kind_eq_of_equal first)
  · induction related with
    | nil => rfl
    | cons first _ ih =>
      simp only [index, List.filterMap_cons, Value.key?_congr first] at ih ⊢
      rw [ih]

/-- Equal lists have the same members. -/
theorem contains_congr (same : s.equal t = true) (x : Value) : s.contains x = t.contains x := by
  obtain ⟨kind, index⟩ := kind?_eq_and_index_eq same
  rw [contains, contains, kind, index]

end ValueSet

/-! ### Comparisons -/

theorem Operand.equal_comm (x y : Operand) : x.equal y = y.equal x := by
  cases x <;> cases y <;> simp only [equal]
  case value v w => exact v.equal_comm w
  case set s t =>
    rw [Bool.eq_iff_iff, ValueSet.equal_iff, ValueSet.equal_iff]
    constructor
    all_goals
      intro related
      refine (related.imp fun v w same => ?_).flip
      rw [flip, Value.equal_comm]
      exact same
  case pattern | reference => exact Bool.beq_comm

theorem Operand.equal_trans {x y z : Operand} (first : x.equal y = true)
    (second : y.equal z = true) : x.equal z = true := by
  cases x <;> cases y <;> simp only [equal, reduceCtorEq] at first <;>
    cases z <;> simp only [equal, reduceCtorEq] at second ⊢
  case value => rw [Value.equal_congr first, second]
  case set =>
    rw [ValueSet.equal_iff] at first second ⊢
    refine forall₂_trans (fun u v w same next => ?_) first second
    rw [Value.equal_congr same, next]
  case pattern | reference => rw [eq_of_beq first, second]

theorem Operand.equal_self_iff (x : Operand) :
    x.equal x = true ↔ ∀ v ∈ x.values, v.isNaN = false := by
  cases x with
  | value v => simpa [equal, values] using v.equal_self_iff
  | set s => simp [equal, values, ValueSet.equal_iff, List.forall₂_same, Value.equal_self_iff]
  | pattern | reference => simp [equal, values]

namespace Comparison

variable {c d : Comparison}

theorem equal_iff : c.equal d = true ↔ c.op = d.op ∧ c.operand.equal d.operand = true := by
  rw [equal, Bool.and_eq_true, beq_iff_eq]

/-- Equal comparisons have equal outcomes. -/
theorem eval_eq_of_equal [Pattern.Engine] (same : c.equal d = true) (record : Record) (scope : Option Record) :
    c.eval record scope = d.eval record scope := by
  obtain ⟨op, x⟩ := c
  obtain ⟨other, y⟩ := d
  obtain ⟨rfl, operands⟩ := equal_iff.mp same
  cases x <;> cases y <;> simp only [Operand.equal, reduceCtorEq] at operands
  case value => simp only [eval, compareValues_congr operands]
  case set => simp only [eval, ValueSet.contains_congr operands]
  case pattern p q =>
    obtain rfl : p = q := congrArg Pattern.mk (eq_of_beq operands)
    rfl
  case reference =>
    obtain rfl := eq_of_beq operands
    rfl

end Comparison

/-! ### Conditions -/

namespace Condition

theorem equalTerms_iff {terms others : List Condition} :
    equalTerms terms others = true ↔
      List.Forall₂ (fun t u => t.equal u = true) terms others := by
  induction terms generalizing others with
  | nil => cases others <;> simp [equalTerms]
  | cons t rest ih => cases others <;> simp [equalTerms, ih]

/-- What equals a node is a node of the same connective. -/
theorem equal_node_iff {connective : Connective} {terms : List Condition} {b : Condition} :
    (connective.node terms).equal b = true ↔ ∃ others, b = connective.node others ∧
      List.Forall₂ (fun t u => t.equal u = true) terms others := by
  cases connective <;> cases b <;> simp [Connective.node, equal, equalTerms_iff]

theorem equalFields_iff {constraints others : List (String × Condition)} :
    equalFields constraints others = true ↔
      List.Forall₂ (fun f g => f.1 = g.1 ∧ f.2.equal g.2 = true) constraints others := by
  induction constraints generalizing others with
  | nil => cases others <;> simp [equalFields]
  | cons f rest ih => cases others <;> simp [equalFields, ih, and_assoc]

/-- What holds of equal leaves, and of two trees whenever it holds of the trees below them one
by one, holds of equal conditions. -/
theorem equal_induction {motive : Condition → Condition → Prop} (always : motive always always)
    (never : motive never never)
    (comparison : ∀ c d, c.equal d = true → motive (comparison c) (comparison d))
    (node : ∀ connective terms others, List.Forall₂ motive terms others →
      motive (Connective.node connective terms) (connective.node others))
    (invert : ∀ inner other, motive inner other → motive (invert inner) (invert other))
    (fields : ∀ constraints others,
      List.Forall₂ (fun f g => f.1 = g.1 ∧ motive f.2 g.2) constraints others →
        motive (fields constraints) (fields others))
    (failure : ∀ message, motive (failure message) (failure message)) {a b : Condition}
    (same : a.equal b = true) : motive a b := by
  induction a using node_induction generalizing b with
  | always => cases b <;> simp only [equal, reduceCtorEq] at same; exact always
  | never => cases b <;> simp only [equal, reduceCtorEq] at same; exact never
  | comparison c =>
    cases b <;> simp only [equal, reduceCtorEq] at same
    exact comparison c _ same
  | node connective terms ih =>
    obtain ⟨others, rfl, related⟩ := equal_node_iff.mp same
    refine node connective terms others ?_
    refine ((List.forall₂_and_left _ _).mpr ⟨ih, related⟩).imp ?_
    rintro t u ⟨holds, equal⟩
    exact holds equal
  | invert inner ih =>
    cases b <;> simp only [equal, reduceCtorEq] at same
    exact invert inner _ (ih same)
  | fields constraints ih =>
    cases b <;> simp only [equal, reduceCtorEq] at same
    refine fields constraints _ ?_
    refine ((List.forall₂_and_left _ _).mpr ⟨ih, equalFields_iff.mp same⟩).imp ?_
    rintro f g ⟨holds, name, equal⟩
    exact ⟨name, holds equal⟩
  | failure message =>
    cases b <;> simp only [equal, reduceCtorEq] at same
    obtain rfl := eq_of_beq same
    exact failure message

variable {a b c : Condition}

theorem equal_symm (same : a.equal b = true) : b.equal a = true := by
  refine equal_induction (motive := fun a b => b.equal a = true) ?always ?never ?comparison
    ?node ?invert ?fields ?failure same
  case always | never => rw [equal]
  case comparison =>
    intro c d leaves
    obtain ⟨op, operands⟩ := Comparison.equal_iff.mp leaves
    rw [equal, Comparison.equal_iff, op, Operand.equal_comm]
    exact ⟨rfl, operands⟩
  case node =>
    intro connective terms others related
    exact equal_node_iff.mpr ⟨terms, rfl, related.flip⟩
  case invert =>
    intro inner other same
    rwa [equal]
  case fields =>
    intro constraints others related
    rw [equal, equalFields_iff]
    refine (related.imp fun f g same => ?_).flip
    exact ⟨same.1.symm, same.2⟩
  case failure =>
    intro message
    rw [equal, beq_self_eq_true]

theorem equal_trans (first : a.equal b = true) (second : b.equal c = true) :
    a.equal c = true := by
  -- the third condition has to vary, since its parts are met one by one
  revert c
  refine equal_induction (motive := fun a b => ∀ {c}, b.equal c = true → a.equal c = true)
    ?always ?never ?comparison ?node ?invert ?fields ?failure first
  case always | never => exact fun second => second
  case failure => exact fun message _ second => second
  case comparison =>
    intro d e leaves c second
    cases c <;> simp only [equal, reduceCtorEq] at second ⊢
    obtain ⟨op, operands⟩ := Comparison.equal_iff.mp leaves
    obtain ⟨nextOp, nextOperands⟩ := Comparison.equal_iff.mp second
    exact Comparison.equal_iff.mpr ⟨op.trans nextOp, Operand.equal_trans operands nextOperands⟩
  case node =>
    intro connective terms others related c second
    obtain ⟨more, rfl, later⟩ := equal_node_iff.mp second
    refine equal_node_iff.mpr ⟨more, rfl, ?_⟩
    exact forall₂_trans (fun t u v holds same => holds same) related later
  case invert =>
    intro inner other holds c second
    cases c <;> simp only [equal, reduceCtorEq] at second ⊢
    exact holds second
  case fields =>
    intro constraints others related c second
    cases c <;> simp only [equal, reduceCtorEq, equalFields_iff] at second ⊢
    exact forall₂_trans (fun f g h holds same => ⟨holds.1.trans same.1, holds.2 same.2⟩)
      related second

theorem equal_self_node_iff {connective : Connective} {terms : List Condition} :
    (connective.node terms).equal (connective.node terms) = true ↔
      ∀ t ∈ terms, t.equal t = true := by
  cases connective <;> simp [Connective.node, equal, equalTerms_iff, List.forall₂_same]

/-- A condition equals itself exactly if no value in it differs from itself. -/
theorem equal_self_iff (c : Condition) :
    c.equal c = true ↔
      ∀ leaf, (comparison leaf).IsPart c → ∀ v ∈ leaf.operand.values, v.isNaN = false := by
  induction c using node_induction with
  | always | never | failure =>
    refine iff_of_true (by simp [equal]) fun leaf part => ?_
    cases part
  | comparison leaf => simp [equal, Comparison.equal_iff, Operand.equal_self_iff]
  | node connective terms ih =>
    rw [equal_self_node_iff]
    constructor
    · intro holds leaf part
      rcases isPart_node_iff.mp part with node | ⟨t, member, below⟩
      · cases connective <;> cases node
      · exact (ih t member).mp (holds t member) leaf below
    · intro numbers t member
      exact (ih t member).mpr fun leaf part =>
        numbers leaf (isPart_node_iff.mpr (.inr ⟨t, member, part⟩))
  | invert inner ih =>
    simp only [equal, isPart_invert_iff, reduceCtorEq, false_or]
    exact ih
  | fields constraints ih =>
    simp only [equal, equalFields_iff, List.forall₂_same, isPart_fields_iff, reduceCtorEq,
      false_or, true_and]
    constructor
    · rintro holds leaf ⟨f, member, part⟩
      exact (ih f member).mp (holds f member) leaf part
    · intro numbers f member
      exact (ih f member).mpr fun leaf part => numbers leaf ⟨f, member, part⟩

/-- Equal conditions have the same outcome on every record. -/
theorem eval_eq_of_equal [Pattern.Engine] (same : a.equal b = true) :
    ∀ record scope, a.eval record scope = b.eval record scope := by
  refine equal_induction
    (motive := fun a b => ∀ record scope, a.eval record scope = b.eval record scope)
    ?always ?never ?comparison ?node ?invert ?fields ?failure same
  case always | never | failure => intros; rfl
  case comparison =>
    intro c d leaves record scope
    rw [eval, eval]
    exact Comparison.eval_eq_of_equal leaves record scope
  case node =>
    intro connective terms others related record scope
    rw [eval_node, eval_node]
    exact congrArg _ (map_eq_map_of_forall₂ (related.imp fun t u same => same record scope))
  case invert =>
    intro inner other same record scope
    rw [eval, eval, same]
  case fields =>
    intro constraints others related record scope
    rw [eval_fields, eval_fields]
    refine congrArg _ (map_eq_map_of_forall₂ (related.imp ?_))
    rintro f g ⟨name, same⟩
    simp only [constraintOutcome, name, same]

/-! ### The laws together -/

/-- Equal conditions have the same outcome on every record, inside any other record or none,
and fail with the same error. Equality is symmetric and transitive. A condition equals itself
exactly if no floating-point value that is written in it, alone or in a list, is not a number. -/
theorem partialEquivalence_equal [Pattern.Engine] (a b c : Condition) :
    (a.equal b = true → ∀ record scope, a.eval record scope = b.eval record scope) ∧
    (a.equal b = true ↔ b.equal a = true) ∧
    (a.equal b = true → b.equal c = true → a.equal c = true) ∧
    (a.equal a = true ↔
      ∀ leaf, (comparison leaf).IsPart a → ∀ v ∈ leaf.operand.values, v.isNaN = false) :=
  ⟨eval_eq_of_equal, ⟨equal_symm, equal_symm⟩, equal_trans, equal_self_iff a⟩

/-- The zeros of two conditions have opposite signs, alone and in a list. With a value that is
not a number in the place of a zero, a condition differs from itself. -/
theorem partialEquivalence_equal_of_zeros :
    ∃ (about : Binary .double → Binary .double → Condition)
      (zero negativeZero nan : Binary .double),
      about zero negativeZero ≠ about negativeZero zero ∧
      (about zero negativeZero).equal (about negativeZero zero) = true ∧
      (∀ record scope, (about zero negativeZero).eval record scope =
        (about negativeZero zero).eval record scope) ∧
      (about negativeZero zero).equal (about zero negativeZero) = true ∧
      (about zero negativeZero).equal (about zero negativeZero) = true ∧
      nan.isNaN = true ∧ (about zero nan).equal (about zero nan) = false := by
  let about (x y : Binary .double) : Condition :=
    onField "x" (conj [le (.value (.double x)), isIn [x, y]])
  let zero : Binary .double := .ofBits .double 0
  let negativeZero : Binary .double := .ofBits .double 0x8000000000000000
  let nan : Binary .double := .ofBits .double 0x7FF8000000000001
  have same : (about zero negativeZero).equal (about negativeZero zero) = true := by
    decide +kernel
  obtain ⟨outcome, symm, trans, -⟩ := partialEquivalence_equal (about zero negativeZero)
    (about negativeZero zero) (about zero negativeZero)
  obtain ⟨-, -, -, reflexive⟩ := partialEquivalence_equal (about zero nan) .always .always
  refine ⟨about, zero, negativeZero, nan, ?_, same, outcome same, symm.mp same,
    trans same (symm.mp same), rfl, ?_⟩
  · have distinct : zero ≠ negativeZero := by decide
    simp [about, onField, le, scalar, ScalarOperand.toOperand, distinct]
  · rw [← Bool.not_eq_true, reflexive]
    intro numbers
    have part : (isIn [zero, nan]).IsPart (about zero nan) :=
      .fields List.mem_cons_self (.conj (List.mem_cons_of_mem _ List.mem_cons_self) (.whole _))
    have number := numbers _ part (.double nan) (List.mem_cons_of_mem _ List.mem_cons_self)
    cases number

end Condition

end RecordFilter
