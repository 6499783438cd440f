import RecordFilter.Proofs.Condition.Simplified
import RecordFilter.Proofs.Token.Decomposition

/-!
# The trees of expressions

The condition of an expression is a tree over its clauses. Inner nodes are conjunctions and
disjunctions in turn, and the clauses at the leaves are such as can be written down. A
connective joins clauses of its own node by adding a term, and puts everything else below a
new node.

## Main definitions

* `Clause.Written`: a clause that some tokens say
* `Condition.OfClauses`: the trees over written clauses

## Main results

* `Connective.foldl_join`: terms joined one by one make a node
* `Condition.OfClauses.of_parse`: what is parsed from some tokens is such a tree
-/

namespace RecordFilter

/-! ### Nodes -/

namespace Connective

theorem node_injective {connective other : Connective} {terms otherTerms : List Condition}
    (same : connective.node terms = other.node otherTerms) :
    connective = other ∧ terms = otherTerms := by
  cases connective <;> cases other <;> cases same <;> exact ⟨rfl, rfl⟩

/-- The node of another connective is a term. -/
theorem isTerm_node {connective other : Connective} (terms : List Condition)
    (distinct : connective ≠ other) : connective.IsTerm (other.node terms) := by
  cases connective <;> cases other <;> first | exact absurd rfl distinct | trivial

variable {connective : Connective} {a b : Condition} {terms : List Condition}

/-- Two terms become a node. -/
theorem join_of_isTerm (first : connective.IsTerm a) (second : connective.IsTerm b) :
    connective.join a b = connective.node [a, b] := by
  have simple : ∀ t ∈ [a, b], connective.IsTerm t := by simp [first, second]
  rw [join_eq_combine, combine_eq_ofTerms, terms?_eq_self simple]
  exact ofTerms_of_two_le_length (Nat.le_refl 2)

/-- A term is added at the end of a node. -/
theorem join_node (nonempty : terms ≠ []) (simple : connective.IsTerm b) :
    connective.join (connective.node terms) b = connective.node (terms ++ [b]) := by
  have flat : connective.terms? [connective.node terms, b] = some (terms ++ [b]) := by
    rw [terms?_cons, terms?_node, terms?_of_isTerm simple]
    rfl
  have several : 2 ≤ (terms ++ [b]).length := by
    have atLeastOne := List.length_pos_iff.mpr nonempty
    rw [List.length_append, List.length_singleton]
    omega
  rw [join_eq_combine, combine_eq_ofTerms, flat, ofTerms_of_two_le_length several]

/-- Terms joined one by one make a node, from the second on. -/
theorem foldl_join {second : Condition} (simpleFirst : connective.IsTerm a)
    (simple : ∀ t ∈ second :: terms, connective.IsTerm t) :
    (second :: terms).foldl connective.join a = connective.node (a :: second :: terms) := by
  induction terms using List.reverseRecOn with
  | nil => exact join_of_isTerm simpleFirst (simple second List.mem_cons_self)
  | append_singleton front last ih =>
    have simpleFront : ∀ t ∈ second :: front, connective.IsTerm t := fun t member =>
      simple t (List.mem_append_left [last] member)
    have simpleLast : connective.IsTerm last := simple last (by simp)
    rw [← List.cons_append, List.foldl_append, ih simpleFront]
    exact join_node (List.cons_ne_nil _ _) simpleLast

end Connective

/-! ### Clauses -/

/-- The field that a target names, if it is not the record itself. -/
def Target.name? : Target → Option String
  | record => none
  | field name _ => some name

namespace Clause

/-- The clause is said by tokens that have a spelling. -/
def Written (schema : Schema) (c : Clause) : Prop :=
  ∃ lexemes, c.Spelled schema lexemes ∧ ∀ l ∈ lexemes, ∃ source, l.Spelled source

/-- The condition of a clause is a leaf below any connective. -/
theorem isTerm_toCondition (connective : Connective) (c : Clause) :
    connective.IsTerm c.toCondition := by
  obtain ⟨target, comparison⟩ := c
  cases target <;> cases connective <;> trivial

end Clause

/-- The clauses of a text are written. -/
theorem Sentence.OfText.written {schema : Schema} {s : Sentence} {text : String}
    (said : s.OfText schema text) : ∀ clause ∈ s.clauses, clause.Written schema := by
  intro clause member
  obtain ⟨tokens, scanned, spelled⟩ := said
  obtain ⟨lexemes, among, saidClause⟩ := spelled.exists_spelled member
  refine ⟨lexemes, saidClause, fun l used => ?_⟩
  obtain ⟨t, token, rfl⟩ := List.mem_map.mp (among used)
  exact (Token.decomposes_of_tokenize scanned).exists_spelled token

/-! ### Trees -/

namespace Condition

/-- The condition is a tree over written clauses in which no node has a term that could be
spliced into it. -/
inductive OfClauses (schema : Schema) : Condition → Prop
  | clause {clause : Clause} (written : clause.Written schema) :
      OfClauses schema clause.toCondition
  | node (connective : Connective) {terms : List Condition} (several : 2 ≤ terms.length)
      (simple : ∀ t ∈ terms, connective.IsTerm t) (parts : ∀ t ∈ terms, OfClauses schema t) :
      OfClauses schema (connective.node terms)

variable {schema : Schema} {c : Condition}

/-- What is joined to a tree becomes the last term of the tree's node, or the second of two. -/
theorem OfClauses.join_cases {leaf : Condition} {connective : Connective}
    (tree : c.OfClauses schema) (simple : connective.IsTerm leaf) :
    connective.IsTerm c ∧ connective.join c leaf = connective.node [c, leaf] ∨
      ∃ terms, c = connective.node terms ∧ 2 ≤ terms.length ∧
        (∀ t ∈ terms, connective.IsTerm t ∧ t.OfClauses schema) ∧
        connective.join c leaf = connective.node (terms ++ [leaf]) := by
  cases tree with
  | @clause first written =>
    have term := first.isTerm_toCondition connective
    exact .inl ⟨term, Connective.join_of_isTerm term simple⟩
  | @node other terms several simpleTerms parts =>
    by_cases distinct : connective = other
    · subst distinct
      have nonempty : terms ≠ [] := by
        rintro rfl
        cases several
      exact .inr ⟨terms, rfl, several, fun t member => ⟨simpleTerms t member, parts t member⟩,
        Connective.join_node nonempty simple⟩
    · have term := Connective.isTerm_node terms distinct
      exact .inl ⟨term, Connective.join_of_isTerm term simple⟩

/-- A clause joined to a tree makes a tree. -/
theorem OfClauses.join {clause : Clause} (tree : c.OfClauses schema) (connective : Connective)
    (written : clause.Written schema) :
    (connective.join c clause.toCondition).OfClauses schema := by
  have leaf := clause.isTerm_toCondition connective
  have last := OfClauses.clause written
  have ofTerms {terms : List Condition} (several : 2 ≤ terms.length)
      (each : ∀ t ∈ terms, connective.IsTerm t ∧ t.OfClauses schema) :
      (connective.node terms).OfClauses schema :=
    .node connective several (fun t member => (each t member).1) fun t member => (each t member).2
  rcases tree.join_cases leaf with ⟨term, joined⟩ | ⟨terms, -, several, each, joined⟩
  · rw [joined]
    refine ofTerms le_rfl ?_
    simpa using ⟨⟨term, tree⟩, leaf, last⟩
  · rw [joined]
    refine ofTerms ?_ ?_
    · rw [List.length_append]
      omega
    · rw [List.forall_mem_append]
      exact ⟨each, by simpa using ⟨leaf, last⟩⟩

/-- The tree of an expression of written clauses. -/
theorem OfClauses.of_expression {e : Expression}
    (written : ∀ clause ∈ e.first :: e.rest.map Prod.snd, clause.Written schema) :
    e.toCondition.OfClauses schema := by
  obtain ⟨first, rest⟩ := e
  obtain ⟨ofFirst, ofRest⟩ := List.forall_mem_cons.mp written
  have tree : first.toCondition.OfClauses schema := .clause ofFirst
  rw [Expression.toCondition]
  dsimp only
  -- the tree of the clauses so far takes the place of the first one
  generalize first.toCondition = soFar at tree
  clear written ofFirst
  induction rest generalizing soFar with
  | nil => exact tree
  | cons item rest ih =>
    obtain ⟨ofNext, ofLater⟩ := List.forall_mem_cons.mp ofRest
    exact ih ofLater _ (tree.join item.1 ofNext)

/-- What is parsed is the condition that always holds or a tree over written clauses. -/
theorem OfClauses.of_parse {text : String} (parsed : parse schema text = .ok c) :
    c = .always ∨ c.OfClauses schema := by
  rcases parse_eq_ok_iff_ofText.mp parsed with ⟨-, rfl⟩ | ⟨s, said, rfl⟩
  · exact .inl rfl
  · have written := said.written
    rw [s.clauses_eq] at written
    exact .inr (.of_expression written)

end Condition

end RecordFilter
