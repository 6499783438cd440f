import RecordFilter.Proofs.Condition.Simplified

/-!
# Parts of combinations

Combinators put conditions together in new nodes, and simplify on the way. Whatever lies
inside of what they build has been inside of one of their operands. So conditions that are
taken out of what has been built, and are combined again, yield nothing that could not have
been built right away.

## Main definitions

* `Condition.children`: the conditions right below a condition

## Main results

* `Condition.isPart_iff`: what the parts of a condition are
* `Condition.isPart_combine`, `Condition.isPart_negate`: where the parts of a combination come
  from
* `Condition.Built.of_isPart`, `Condition.Obtained.of_isPart`: parts can be built, too
-/

namespace RecordFilter.Condition

variable {node c : Condition} {connective : Connective} {row terms : List Condition}

/-! ### Nodes -/

/-- The conditions right below a condition. -/
def children : Condition → List Condition
  | .conj terms | .disj terms => terms
  | .invert inner => [inner]
  | .fields constraints => constraints.map Prod.snd
  | .always | .never | .comparison _ | .failure _ => []

/-- The parts of a condition are the condition itself and the parts of what is right below it. -/
theorem isPart_iff : node.IsPart c ↔ node = c ∨ ∃ part ∈ c.children, node.IsPart part := by
  constructor
  · intro part
    cases part with
    | whole => exact .inl rfl
    | conj member inside | disj member inside => exact .inr ⟨_, member, inside⟩
    | invert inside => exact .inr ⟨_, List.mem_singleton_self _, inside⟩
    | fields member inside => exact .inr ⟨_, List.mem_map_of_mem member, inside⟩
  · rintro (rfl | ⟨part, member, inside⟩)
    · exact .whole _
    · cases c with
      | always | never | comparison | failure => cases member
      | conj => exact .conj member inside
      | disj => exact .disj member inside
      | invert =>
        obtain rfl := List.mem_singleton.mp member
        exact .invert inside
      | fields =>
        obtain ⟨f, among, rfl⟩ := List.mem_map.mp member
        exact .fields among inside

@[simp] theorem isPart_comparison_iff {leaf : Comparison} :
    node.IsPart (comparison leaf) ↔ node = comparison leaf := by
  rw [isPart_iff, children]
  simp

theorem isPart_node_iff : node.IsPart (connective.node terms) ↔
    node = connective.node terms ∨ ∃ t ∈ terms, node.IsPart t := by
  rw [isPart_iff]
  cases connective <;> rfl

@[simp] theorem isPart_conj_iff :
    node.IsPart (conj terms) ↔ node = conj terms ∨ ∃ t ∈ terms, node.IsPart t :=
  isPart_iff

@[simp] theorem isPart_disj_iff :
    node.IsPart (disj terms) ↔ node = disj terms ∨ ∃ t ∈ terms, node.IsPart t :=
  isPart_iff

@[simp] theorem isPart_invert_iff {inner : Condition} :
    node.IsPart (invert inner) ↔ node = invert inner ∨ node.IsPart inner := by
  rw [isPart_iff, children]
  simp

@[simp] theorem isPart_fields_iff {constraints : List (String × Condition)} :
    node.IsPart (fields constraints) ↔
      node = fields constraints ∨ ∃ f ∈ constraints, node.IsPart f.2 := by
  rw [isPart_iff, children]
  simp only [List.mem_map, exists_exists_and_eq_and]

/-! ### Combinators -/

/-- What is part of a term of a flattened row is part of an operand. -/
theorem exists_isPart_of_terms? (flattened : connective.terms? row = some terms)
    {t : Condition} (member : t ∈ terms) (part : node.IsPart t) :
    ∃ c ∈ row, node.IsPart c := by
  rcases Connective.mem_terms? flattened member with ⟨operand, -⟩ | ⟨inner, spliced, among⟩
  · exact ⟨t, operand, part⟩
  · exact ⟨_, spliced, isPart_node_iff.mpr (.inr ⟨t, among, part⟩)⟩

/-- A part of a combination is part of an operand, unless it is the combination itself, which
is a constant or a node then. -/
theorem isPart_combine (part : node.IsPart (connective.combine row)) :
    node = connective.combine row ∧ ¬ connective.IsTerm node ∨ ∃ c ∈ row, node.IsPart c := by
  rw [Connective.combine_eq_ofTerms] at part ⊢
  match flattened : connective.terms? row with
  | none =>
    rw [flattened] at part
    obtain rfl : node = connective.absorbing := by cases connective <;> cases part <;> rfl
    exact .inl ⟨rfl, Connective.not_isTerm_absorbing⟩
  | some [] =>
    rw [flattened] at part
    obtain rfl : node = connective.unit := by cases connective <;> cases part <;> rfl
    exact .inl ⟨rfl, Connective.not_isTerm_unit⟩
  | some [c] =>
    rw [flattened] at part
    exact .inr (exists_isPart_of_terms? flattened List.mem_cons_self part)
  | some (t :: u :: more) =>
    rw [flattened] at part
    rcases isPart_node_iff.mp part with rfl | ⟨t, member, below⟩
    · exact .inl ⟨rfl, Connective.not_isTerm_node⟩
    · exact .inr (exists_isPart_of_terms? flattened member below)

/-- A part of a negation is the negation itself or part of what is negated. -/
theorem isPart_negate (part : node.IsPart c.negate) : node = c.negate ∨ node.IsPart c := by
  cases c with
  | always | never | comparison =>
    cases part
    exact .inl rfl
  | invert => exact .inr (.invert part)
  | conj | disj | fields | failure =>
    cases part with
    | whole => exact .inl rfl
    | invert below => exact .inr below

/-! ### Everything that is built -/

/-- A comparison has no parts but itself. -/
theorem Built.of_isPart_comparison {leaf : Comparison} (built : (comparison leaf).Built)
    (part : node.IsPart (comparison leaf)) : node.Built := by
  cases part
  exact built

theorem exists_eq_comparison_of_compare? {op : Operator} {operand : ScalarOperand}
    (made : compare? op operand = .ok c) : ∃ leaf, c = comparison leaf := by
  unfold compare? at made
  split at made
  · cases made
    exact ⟨_, rfl⟩
  · cases made

theorem exists_eq_comparison_of_membership? {op : Operator} {values : List Value}
    (made : membership? op values = .ok c) : ∃ leaf, c = comparison leaf := by
  obtain ⟨s, -, rfl⟩ := map_eq_ok_iff.mp made
  exact ⟨_, rfl⟩

/-- A part of a condition with one more constraint is the condition itself, or part of the
constraint or of the condition before. -/
theorem isPart_withField? {constraint extended : Condition} {name : String}
    (made : c.withField? name constraint = some extended) (part : node.IsPart extended) :
    node = extended ∨ node.IsPart constraint ∨ node.IsPart c := by
  unfold withField? at made
  split at made
  · cases made
    cases part with
    | whole => exact .inl rfl
    | fields member below =>
      rcases NameTable.mem_insert member with rfl | before
      · exact .inr (.inl below)
      · exact .inr (.inr (.fields before below))
  · cases made

/-- Parts of what has been built can be built. -/
theorem Built.of_isPart (built : c.Built) (part : node.IsPart c) : node.Built := by
  induction built with
  | always =>
    cases part
    exact .always
  | never =>
    cases part
    exact .never
  | failure message =>
    cases part
    exact .failure message
  | compare made =>
    obtain ⟨leaf, rfl⟩ := exists_eq_comparison_of_compare? made
    exact .of_isPart_comparison (.compare made) part
  | isIn? made =>
    obtain ⟨leaf, rfl⟩ := exists_eq_comparison_of_membership? made
    exact .of_isPart_comparison (.isIn? made) part
  | notIn? made =>
    obtain ⟨leaf, rfl⟩ := exists_eq_comparison_of_membership? made
    exact .of_isPart_comparison (.notIn? made) part
  | isIn members => exact .of_isPart_comparison (.isIn members) part
  | notIn members => exact .of_isPart_comparison (.notIn members) part
  | isMatch source => exact .of_isPart_comparison (.isMatch source) part
  | notMatch source => exact .of_isPart_comparison (.notMatch source) part
  | all parts ih =>
    rcases @isPart_combine _ .and _ part with ⟨rfl, -⟩ | ⟨operand, member, below⟩
    · exact .all parts
    · exact ih operand member below
  | any parts ih =>
    rcases @isPart_combine _ .or _ part with ⟨rfl, -⟩ | ⟨operand, member, below⟩
    · exact .any parts
    · exact ih operand member below
  | negate inner ih =>
    rcases isPart_negate part with rfl | below
    · exact .negate inner
    · exact ih below
  | noFields =>
    cases part with
    | whole => exact .noFields
    | fields member => cases member
  | withField table constraint made ofTable ofConstraint =>
    rcases isPart_withField? made part with rfl | within | before
    · exact .withField table constraint made
    · exact ofConstraint within
    · exact ofTable before

/-- Taking apart what a program has come by gives nothing that it could not have come by. -/
theorem Obtained.of_isPart (obtained : c.Obtained) (part : node.IsPart c) : node.Obtained :=
  .built (obtained.toBuilt.of_isPart part)

end RecordFilter.Condition
