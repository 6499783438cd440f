import RecordFilter.Expression.Basic

/-!
# The terms of combinations

A conjunction and a disjunction are made in one way. Operands of the same sort are spliced, one
constant is dropped, and the other one absorbs the whole row. The two differ only in which is
which, so both are seen here as what a connective makes of a row of operands, and a row as
nothing but its terms.

## Main definitions

* `Condition.IsConjTerm`, `Condition.IsDisjTerm`, `Connective.IsTerm`: what is not simplified
  away below a node
* `Connective.combine`, `Connective.unit`, `Connective.absorbing`, `Connective.node`: conjunctions
  and disjunctions with their constants
* `Connective.neutral`: the truth value of terms that do not settle a node
* `Connective.terms?`: the terms of a row of operands

## Main results

* `Condition.node_induction`: what holds of a tree if it holds of its parts, for both connectives
* `Connective.operand_cases`, `Connective.cases_of_terms?`: what an operand can be
* `Connective.terms?_append`: terms of two rows in succession
* `Connective.terms?_eq_none_iff`: what absorbs
* `Connective.mem_terms?`: where terms come from
-/

namespace RecordFilter

namespace Condition

/-- The condition can be a term of a conjunction. -/
def IsConjTerm : Condition → Prop
  | .always | .never | .conj _ => False
  | _ => True

/-- The condition can be a term of a disjunction. -/
def IsDisjTerm : Condition → Prop
  | .always | .never | .disj _ => False
  | _ => True

end Condition

namespace Connective

/-- The condition that a connective makes of some terms. -/
def node : Connective → List Condition → Condition
  | and, terms => .conj terms
  | or, terms => .disj terms

/-- The condition stays a term of its own below the connective. -/
def IsTerm : Connective → Condition → Prop
  | and, c => c.IsConjTerm
  | or, c => c.IsDisjTerm

/-- The condition that a connective makes of a row of operands. -/
def combine : Connective → List Condition → Condition
  | and, row => .all row
  | or, row => .any row

/-- What a connective makes of no operands. Among other operands it is dropped. -/
def unit : Connective → Condition
  | and => .always
  | or => .never

/-- The truth value of a node without terms, which more terms of this value do not change. -/
def neutral : Connective → Bool
  | and => true
  | or => false

/-- The operand that decides whatever the others are. -/
def absorbing : Connective → Condition
  | and => .never
  | or => .always

/-- The terms of a row of operands, unless one of them absorbs the others. -/
def terms? : Connective → List Condition → Option (List Condition)
  | and, row => Condition.conjTerms? row
  | or, row => Condition.disjTerms? row

/-- The condition with the given terms. -/
def ofTerms (connective : Connective) : Option (List Condition) → Condition
  | none => connective.absorbing
  | some [] => connective.unit
  | some [c] => c
  | some terms => connective.node terms

variable {connective : Connective} {c t : Condition} {row more terms : List Condition}

/-! ### One operand -/

theorem terms?_absorbing : connective.terms? [connective.absorbing] = none := by
  cases connective <;> rfl

theorem terms?_unit : connective.terms? [connective.unit] = some [] := by cases connective <;> rfl

theorem terms?_of_isTerm (simple : connective.IsTerm c) : connective.terms? [c] = some [c] := by
  cases connective <;> cases c <;> first | rfl | cases simple

theorem terms?_node : connective.terms? [connective.node terms] = some terms := by
  cases connective <;> simp [terms?, node, Condition.conjTerms?, Condition.disjTerms?]

/-- Below a connective, a condition is one of the two constants, a term, or a node of the
connective itself. -/
theorem operand_cases (connective : Connective) (c : Condition) :
    (c = connective.absorbing ∧ connective.terms? [c] = none) ∨
      (c = connective.unit ∧ connective.terms? [c] = some []) ∨
      (connective.IsTerm c ∧ connective.terms? [c] = some [c]) ∨
      ∃ terms, c = connective.node terms ∧ connective.terms? [c] = some terms := by
  have kinds : c = connective.absorbing ∨ c = connective.unit ∨ connective.IsTerm c ∨
      ∃ terms, c = connective.node terms := by
    cases connective <;> cases c <;>
      simp [absorbing, unit, IsTerm, node, Condition.IsConjTerm, Condition.IsDisjTerm]
  rcases kinds with rfl | rfl | simple | ⟨terms, rfl⟩
  · exact .inl ⟨rfl, terms?_absorbing⟩
  · exact .inr (.inl ⟨rfl, terms?_unit⟩)
  · exact .inr (.inr (.inl ⟨simple, terms?_of_isTerm simple⟩))
  · exact .inr (.inr (.inr ⟨terms, rfl, terms?_node⟩))

/-- What the terms of a single operand are. -/
theorem cases_of_terms? (flattened : connective.terms? [c] = some terms) :
    (c = connective.unit ∧ terms = []) ∨ (connective.IsTerm c ∧ terms = [c]) ∨
      c = connective.node terms := by
  rcases connective.operand_cases c with
    ⟨-, same⟩ | ⟨dropped, same⟩ | ⟨simple, same⟩ | ⟨inner, spliced, same⟩
  all_goals
    rw [same] at flattened
    cases flattened
  · exact .inl ⟨dropped, rfl⟩
  · exact .inr (.inl ⟨simple, rfl⟩)
  · exact .inr (.inr spliced)

theorem not_isTerm_absorbing : ¬ connective.IsTerm connective.absorbing := by
  cases connective <;> exact id

theorem not_isTerm_unit : ¬ connective.IsTerm connective.unit := by
  cases connective <;> exact id

theorem not_isTerm_node : ¬ connective.IsTerm (connective.node terms) := by
  cases connective <;> exact id

/-! ### Rows -/

/-- Nothing but its terms is seen of a row of operands. -/
theorem combine_eq_ofTerms (connective : Connective) (row : List Condition) :
    connective.combine row = connective.ofTerms (connective.terms? row) := by
  cases connective <;> rfl

theorem join_eq_combine (connective : Connective) (a b : Condition) :
    connective.join a b = connective.combine [a, b] := by
  cases connective <;> rfl

theorem ofTerms_of_two_le_length (several : 2 ≤ terms.length) :
    connective.ofTerms (some terms) = connective.node terms := by
  match terms with
  | _ :: _ :: _ => rfl

theorem terms?_nil : connective.terms? [] = some [] := by cases connective <;> rfl

/-- The terms of an operand come before those of the operands behind it. -/
theorem terms?_cons (connective : Connective) (c : Condition) (row : List Condition) :
    connective.terms? (c :: row) =
      (connective.terms? [c]).bind fun front => (connective.terms? row).map (front ++ ·) := by
  cases connective <;> cases c <;> simp [terms?, Condition.conjTerms?, Condition.disjTerms?]

/-- The terms of two rows in succession are those of the first and then those of the second. -/
theorem terms?_append (connective : Connective) (row more : List Condition) :
    connective.terms? (row ++ more) =
      (connective.terms? row).bind fun front => (connective.terms? more).map (front ++ ·) := by
  induction row with
  | nil => simp [terms?_nil]
  | cons c rest ih =>
    rw [List.cons_append, terms?_cons, ih, terms?_cons connective c rest]
    cases connective.terms? [c] with
    | none => rfl
    | some front => cases connective.terms? rest <;> cases connective.terms? more <;> simp

/-- A row of terms is not flattened any further. -/
theorem terms?_eq_self (simple : ∀ t ∈ row, connective.IsTerm t) :
    connective.terms? row = some row := by
  induction row with
  | nil => exact terms?_nil
  | cons c rest ih =>
    obtain ⟨first, later⟩ := List.forall_mem_cons.mp simple
    rw [terms?_cons, terms?_of_isTerm first, ih later]
    rfl

theorem terms?_eq_none_iff : connective.terms? row = none ↔ connective.absorbing ∈ row := by
  induction row with
  | nil => simp [terms?_nil]
  | cons c rest ih =>
    have first : connective.terms? [c] = none ↔ connective.absorbing = c := by
      constructor
      · intro absorbed
        rcases connective.operand_cases c with
          ⟨same, -⟩ | ⟨-, kept⟩ | ⟨-, kept⟩ | ⟨terms, -, kept⟩
        · exact same.symm
        all_goals
          rw [kept] at absorbed
          cases absorbed
      · rintro rfl
        exact terms?_absorbing
    rw [List.mem_cons, ← ih, ← first, terms?_cons]
    cases connective.terms? [c] <;> simp

/-- Nothing absorbed, a combination is made of its terms. -/
theorem exists_terms? (kept : connective.absorbing ∉ row) :
    ∃ terms, connective.terms? row = some terms := by
  apply Option.ne_none_iff_exists'.mp
  intro absorbed
  exact kept (terms?_eq_none_iff.mp absorbed)

theorem combine_eq_absorbing_of_mem (absorbed : connective.absorbing ∈ row) :
    connective.combine row = connective.absorbing := by
  rw [combine_eq_ofTerms, terms?_eq_none_iff.mpr absorbed]
  rfl

/-- The terms of a row are operands, and the terms of operands that are nodes of the connective
already. -/
theorem mem_terms? (flattened : connective.terms? row = some terms) (member : t ∈ terms) :
    t ∈ row ∧ connective.IsTerm t ∨ ∃ inner, connective.node inner ∈ row ∧ t ∈ inner := by
  induction row generalizing terms with
  | nil =>
    rw [terms?_nil] at flattened
    cases flattened
    cases member
  | cons c rest ih =>
    rw [terms?_cons] at flattened
    obtain ⟨front, ofFirst, flattenedRest⟩ := Option.bind_eq_some_iff.mp flattened
    obtain ⟨later, ofRest, rfl⟩ := Option.map_eq_some_iff.mp flattenedRest
    rcases List.mem_append.mp member with among | among
    · rcases cases_of_terms? ofFirst with ⟨-, rfl⟩ | ⟨simple, rfl⟩ | rfl
      · cases among
      · rw [List.mem_singleton.mp among]
        exact .inl ⟨List.mem_cons_self, simple⟩
      · exact .inr ⟨front, List.mem_cons_self, among⟩
    · rcases ih ofRest among with ⟨operand, simple⟩ | ⟨inner, spliced, within⟩
      · exact .inl ⟨List.mem_cons_of_mem c operand, simple⟩
      · exact .inr ⟨inner, List.mem_cons_of_mem c spliced, within⟩

end Connective

namespace Condition

/-- What holds of the leaves, and of a tree whenever it holds of the trees below it, holds of every
tree. Both connectives are one case. -/
theorem node_induction {motive : Condition → Prop} (always : motive always) (never : motive never)
    (comparison : ∀ c, motive (comparison c))
    (node : ∀ connective terms, (∀ t ∈ terms, motive t) → motive (Connective.node connective terms))
    (invert : ∀ inner, motive inner → motive (invert inner))
    (fields : ∀ constraints, (∀ f ∈ constraints, motive f.2) → motive (fields constraints))
    (failure : ∀ message, motive (failure message)) (c : Condition) : motive c :=
  c.induction always never comparison (node .and) (node .or) invert fields failure

theorem all_eq_never_of_mem {conditions : List Condition} (absorbed : .never ∈ conditions) :
    all conditions = .never :=
  @Connective.combine_eq_absorbing_of_mem .and conditions absorbed

theorem any_eq_always_of_mem {conditions : List Condition} (absorbed : .always ∈ conditions) :
    any conditions = .always :=
  @Connective.combine_eq_absorbing_of_mem .or conditions absorbed

end Condition

end RecordFilter
