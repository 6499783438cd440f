import RecordFilter.Proofs.Condition.Terms
import RecordFilter.Proofs.Outcome

/-!
# Canonical form

What the combinators build is simplified from the start. A conjunction has several terms,
none of which is a constant or a conjunction again, disjunctions likewise, and a negation
remains only where nothing absorbs it. Each combinator keeps this form, and takes it for
granted in what the others have built: a conjunction that is spliced into another one
brings only terms that can stand there.

## Main definitions

* `Condition.Built`: the conditions that constructors and combinators build
* `Condition.Canonical`: the form that all of them have

## Main results

* `Connective.canonical_combine`, `Condition.canonical_negate`, `Condition.canonical_withField?`:
  combinators keep the form
* `Condition.Built.canonical`: all built conditions have it
-/

namespace RecordFilter

namespace Condition

/-- The conditions that constructors and combinators build. -/
inductive Built : Condition → Prop
  | always : Built .always
  | never : Built .never
  | failure (message : String) : Built (.failure message)
  /-- A scalar operator, chosen by the program or at run time. -/
  | compare {op : Operator} {operand : ScalarOperand} {c : Condition}
      (made : compare? op operand = .ok c) : Built c
  /-- Membership in a list whose values have turned out to be of one kind. -/
  | isIn? {values : List Value} {c : Condition} (made : isIn? values = .ok c) : Built c
  | notIn? {values : List Value} {c : Condition} (made : notIn? values = .ok c) : Built c
  | isIn {α : Type} [Scalar α] (members : List α) : Built (isIn members)
  | notIn {α : Type} [Scalar α] (members : List α) : Built (notIn members)
  | isMatch (source : String) : Built (isMatch source)
  | notMatch (source : String) : Built (notMatch source)
  | all {conditions : List Condition} (parts : ∀ c ∈ conditions, Built c) :
      Built (all conditions)
  | any {conditions : List Condition} (parts : ∀ c ∈ conditions, Built c) :
      Built (any conditions)
  | negate {c : Condition} (inner : Built c) : Built c.negate
  /-- The table of constraints before the first is added. -/
  | noFields : Built (.fields [])
  | withField {c constraint extended : Condition} {name : String} (table : Built c)
      (part : Built constraint) (made : c.withField? name constraint = some extended) :
      Built extended

theorem Built.scalar {op : Operator} (isScalar : op.isScalar = true) (operand : ScalarOperand) :
    (scalar op operand).Built := by
  apply Built.compare
  rw [compare?, if_pos isScalar]

theorem Built.and {a b : Condition} (first : a.Built) (second : b.Built) : (a &&& b).Built := by
  apply Built.all
  simp only [List.forall_mem_cons, List.not_mem_nil, false_implies, implies_true, and_true]
  exact ⟨first, second⟩

theorem Built.or {a b : Condition} (first : a.Built) (second : b.Built) : (a ||| b).Built := by
  apply Built.any
  simp only [List.forall_mem_cons, List.not_mem_nil, false_implies, implies_true, and_true]
  exact ⟨first, second⟩

/-- No rule absorbs the negation of the condition. -/
def IsInverted : Condition → Prop
  | .always | .never | .comparison _ | .invert _ => False
  | _ => True

/-- The canonical form: nothing in the condition could have been simplified, operators suit
their operands, and the names of constraints are in order. -/
inductive Canonical : Condition → Prop
  | always : Canonical .always
  | never : Canonical .never
  | comparison {c : Comparison} (paired : c.WellPaired) : Canonical (.comparison c)
  | conj {terms : List Condition} (several : 2 ≤ terms.length)
      (simple : ∀ t ∈ terms, t.IsConjTerm) (parts : ∀ t ∈ terms, Canonical t) :
      Canonical (.conj terms)
  | disj {terms : List Condition} (several : 2 ≤ terms.length)
      (simple : ∀ t ∈ terms, t.IsDisjTerm) (parts : ∀ t ∈ terms, Canonical t) :
      Canonical (.disj terms)
  | invert {inner : Condition} (kept : inner.IsInverted) (part : Canonical inner) :
      Canonical (.invert inner)
  | fields {constraints : List (String × Condition)} (sorted : NameTable.Sorted constraints)
      (parts : ∀ f ∈ constraints, Canonical f.2) : Canonical (.fields constraints)
  | failure (message : String) : Canonical (.failure message)

theorem Canonical.wellPaired {c : Comparison} (canonical : Canonical (.comparison c)) :
    c.WellPaired := by
  cases canonical with
  | comparison paired => exact paired

variable {connective : Connective} {terms : List Condition}

/-- Terms that are canonical make a canonical node. -/
theorem Canonical.node (several : 2 ≤ terms.length) (simple : ∀ t ∈ terms, connective.IsTerm t)
    (parts : ∀ t ∈ terms, t.Canonical) : (connective.node terms).Canonical := by
  cases connective with
  | and => exact .conj several simple parts
  | or => exact .disj several simple parts

theorem Canonical.of_node (canonical : (connective.node terms).Canonical) :
    2 ≤ terms.length ∧ ∀ t ∈ terms, connective.IsTerm t ∧ t.Canonical := by
  cases connective with
  | and =>
    cases canonical with
    | conj several simple parts =>
      exact ⟨several, fun t member => ⟨simple t member, parts t member⟩⟩
  | or =>
    cases canonical with
    | disj several simple parts =>
      exact ⟨several, fun t member => ⟨simple t member, parts t member⟩⟩

end Condition

/-! ### Combinators -/

namespace Connective

variable {connective : Connective} {row terms : List Condition}

/-- The terms of canonical conditions can stand below a node, and are canonical. -/
theorem isTerm_of_mem_terms? (parts : ∀ c ∈ row, c.Canonical)
    (flattened : connective.terms? row = some terms) :
    ∀ t ∈ terms, connective.IsTerm t ∧ t.Canonical := by
  intro t member
  rcases mem_terms? flattened member with ⟨operand, simple⟩ | ⟨inner, spliced, among⟩
  · exact ⟨simple, parts t operand⟩
  · exact (parts _ spliced).of_node.2 t among

theorem canonical_combine (parts : ∀ c ∈ row, c.Canonical) :
    (connective.combine row).Canonical := by
  rw [combine_eq_ofTerms]
  match flattened : connective.terms? row with
  | none =>
    cases connective with
    | and => exact .never
    | or => exact .always
  | some [] =>
    cases connective with
    | and => exact .always
    | or => exact .never
  | some [c] => exact (isTerm_of_mem_terms? parts flattened c List.mem_cons_self).2
  | some (_ :: _ :: _) =>
    have flat := isTerm_of_mem_terms? parts flattened
    exact .node (by simp) (fun t member => (flat t member).1) fun t member => (flat t member).2

end Connective

namespace Condition

variable {conditions : List Condition}

theorem canonical_all (parts : ∀ c ∈ conditions, c.Canonical) : (all conditions).Canonical :=
  @Connective.canonical_combine .and conditions parts

theorem canonical_any (parts : ∀ c ∈ conditions, c.Canonical) : (any conditions).Canonical :=
  @Connective.canonical_combine .or conditions parts

/-- The complementary operator suits the same operands. -/
theorem wellPaired_complement {c : Comparison} (paired : c.WellPaired) :
    c.complement.WellPaired := by
  obtain ⟨op, operand⟩ := c
  cases operand <;> cases op <;> exact paired

theorem canonical_negate {c : Condition} (canonical : c.Canonical) : c.negate.Canonical := by
  cases canonical with
  | always => exact .never
  | never => exact .always
  | comparison paired => exact .comparison (wellPaired_complement paired)
  | conj several simple parts => exact .invert trivial (.conj several simple parts)
  | disj several simple parts => exact .invert trivial (.disj several simple parts)
  | invert kept part => exact part
  | fields sorted parts => exact .invert trivial (.fields sorted parts)
  | failure message => exact .invert trivial (.failure message)

theorem canonical_withField? {c constraint extended : Condition} {name : String}
    (canonical : c.Canonical) (part : constraint.Canonical)
    (made : c.withField? name constraint = some extended) : extended.Canonical := by
  unfold withField? at made
  split at made
  · next constraints =>
    cases made
    cases canonical with
    | fields sorted parts =>
      refine .fields (NameTable.sorted_insert name constraint sorted) ?_
      intro f member
      rcases NameTable.mem_insert member with rfl | before
      · exact part
      · exact parts f before
  · cases made

/-! ### Constructors -/

theorem canonical_compare? {op : Operator} {operand : ScalarOperand} {c : Condition}
    (made : compare? op operand = .ok c) : c.Canonical := by
  unfold compare? at made
  split at made
  · next scalar =>
    cases made
    cases operand <;> exact .comparison scalar
  · cases made

theorem canonical_membership? {op : Operator} {values : List Value} {c : Condition}
    (membership : op.isMembership = true) (made : membership? op values = .ok c) :
    c.Canonical := by
  obtain ⟨s, collected, rfl⟩ := map_eq_ok_iff.mp made
  exact .comparison ⟨membership, (ValueSet.uniform_of_ofValues collected).1⟩

/-- Built conditions are in canonical form. -/
theorem Built.canonical {c : Condition} (built : c.Built) : c.Canonical := by
  induction built with
  | always => exact .always
  | never => exact .never
  | failure message => exact .failure message
  | compare made => exact canonical_compare? made
  | isIn? made => exact canonical_membership? rfl made
  | notIn? made => exact canonical_membership? rfl made
  | isIn members => exact .comparison ⟨rfl, ValueSet.uniform_ofScalars members⟩
  | notIn members => exact .comparison ⟨rfl, ValueSet.uniform_ofScalars members⟩
  | isMatch source => exact .comparison rfl
  | notMatch source => exact .comparison rfl
  | all _ parts => exact canonical_all parts
  | any _ parts => exact canonical_any parts
  | negate _ inner => exact canonical_negate inner
  | noFields => exact .fields NameTable.sorted_nil fun f member => absurd member List.not_mem_nil
  | withField _ _ made table part => exact canonical_withField? table part made

end Condition

end RecordFilter
