import RecordFilter.Proofs.Condition.Parts
import RecordFilter.Proofs.Expression.Trees

/-!
# Names in conditions

A condition mentions the fields that it constrains and the fields that its comparisons refer
to. Conjunctions and disjunctions mention what their operands mention, however they have been
simplified. So a parsed condition mentions only the targets of its clauses, which are fields of
the schema and words of the text.

## Main definitions

* `Condition.Mentions`: the name of a field occurs in a condition
* `NamesField`: a clause of a text is about a field

## Main results

* `Condition.Mentions.of_combine`: names in combinations
* `Condition.Mentions.of_parse`: what a parsed condition mentions is named in the text
-/

namespace RecordFilter

/-! ### Mentioned names -/

namespace Condition

/-- The node itself names the field, in a reference or in a constraint. -/
inductive Names : Condition → String → Prop
  | reference (op : Operator) (name : String) : Names (.comparison ⟨op, .reference name⟩) name
  | fields {constraints : List (String × Condition)} {f : String × Condition}
      (member : f ∈ constraints) : Names (.fields constraints) f.1

/-- The name of the field occurs in the condition. -/
def Mentions (c : Condition) (name : String) : Prop :=
  ∃ node : Condition, node.IsPart c ∧ node.Names name

variable {name : String} {conditions : List Condition}

@[simp] theorem mentions_comparison_iff {leaf : Comparison} :
    (comparison leaf).Mentions name ↔ leaf.operand = .reference name := by
  constructor
  · rintro ⟨node, part, names⟩
    cases part
    cases names
    rfl
  · obtain ⟨op, operand⟩ := leaf
    rintro rfl
    exact ⟨_, .whole _, .reference op name⟩

/-- What names a field is no constant and no node of a connective. -/
theorem Names.isTerm {node : Condition} (connective : Connective) (names : node.Names name) :
    connective.IsTerm node := by
  cases connective <;> cases names <;> trivial

/-- A node mentions what its terms mention. -/
theorem mentions_node_iff {connective : Connective} {terms : List Condition} :
    (connective.node terms).Mentions name ↔ ∃ t ∈ terms, t.Mentions name := by
  constructor
  · rintro ⟨node, part, names⟩
    rcases isPart_node_iff.mp part with rfl | ⟨t, member, below⟩
    · exact absurd (names.isTerm connective) Connective.not_isTerm_node
    · exact ⟨t, member, node, below, names⟩
  · rintro ⟨t, member, node, below, names⟩
    exact ⟨node, isPart_node_iff.mpr (.inr ⟨t, member, below⟩), names⟩

@[simp] theorem mentions_invert_iff {inner : Condition} :
    (invert inner).Mentions name ↔ inner.Mentions name := by
  constructor
  · rintro ⟨node, part, names⟩
    cases part with
    | whole => cases names
    | invert below => exact ⟨node, below, names⟩
  · rintro ⟨node, below, names⟩
    exact ⟨node, .invert below, names⟩

@[simp] theorem mentions_fields_iff {constraints : List (String × Condition)} :
    (fields constraints).Mentions name ↔
      ∃ f ∈ constraints, f.1 = name ∨ f.2.Mentions name := by
  constructor
  · rintro ⟨node, part, names⟩
    cases part with
    | whole =>
      cases names with
      | fields member => exact ⟨_, member, .inl rfl⟩
    | fields member below => exact ⟨_, member, .inr ⟨node, below, names⟩⟩
  · rintro ⟨f, member, rfl | ⟨node, below, names⟩⟩
    · exact ⟨_, .whole _, .fields member⟩
    · exact ⟨node, .fields member below, names⟩

/-- A combination mentions nothing but what its operands mention. -/
theorem Mentions.of_combine {connective : Connective} {row : List Condition}
    (mentioned : (connective.combine row).Mentions name) : ∃ c ∈ row, c.Mentions name := by
  obtain ⟨node, part, names⟩ := mentioned
  rcases isPart_combine part with ⟨-, noTerm⟩ | ⟨c, member, below⟩
  · exact absurd (names.isTerm connective) noTerm
  · exact ⟨c, member, node, below, names⟩

theorem Mentions.of_join {a b : Condition} {connective : Connective}
    (mentioned : (connective.join a b).Mentions name) : a.Mentions name ∨ b.Mentions name := by
  rw [connective.join_eq_combine] at mentioned
  have operand := mentioned.of_combine
  simpa using operand

end Condition

/-! ### Parsed conditions -/

/-- A clause of the text is about the field. -/
def NamesField (schema : Schema) (text name : String) : Prop :=
  ∃ s : Sentence, s.OfText schema text ∧ ∃ clause ∈ s.clauses, clause.target.name? = some name

/-- The fields that a text names are in the schema, and their names are words of the text. -/
theorem NamesField.contains_and_word {schema : Schema} {text name : String}
    (named : NamesField schema text name) :
    schema.contains name = true ∧
      ∃ tokens, tokenize text = .ok tokens ∧ .word name ∈ tokens.map Token.lexeme := by
  obtain ⟨s, ⟨tokens, scanned, spelled⟩, clause, member, aboutField⟩ := named
  obtain ⟨part, among, said⟩ := spelled.exists_spelled member
  obtain ⟨target, -, -⟩ := said
  cases target with
  | record => cases aboutField
  | field known =>
    cases aboutField
    exact ⟨by rw [Schema.contains, known, Option.isSome_some], tokens, scanned,
      among List.mem_cons_self⟩

namespace Condition

/-- What is written on the right-hand side of a clause is no reference. -/
theorem not_mentions_of_operandSpelled {kind : Option Kind} {op : Operator} {operand : Operand}
    {lexemes : List Lexeme} (spelled : operand.Spelled kind op lexemes) (name : String) :
    ¬ (comparison ⟨op, operand⟩).Mentions name := by
  rw [mentions_comparison_iff]
  dsimp only
  rintro rfl
  cases spelled

/-- The condition of a clause mentions no field but the target. -/
theorem Mentions.of_clauseSpelled {schema : Schema} {clause : Clause} {lexemes : List Lexeme}
    {name : String} (said : clause.Spelled schema lexemes)
    (mentioned : clause.toCondition.Mentions name) : clause.target.name? = some name := by
  obtain ⟨target, -, taken⟩ := said
  have noReference := not_mentions_of_operandSpelled taken name
  cases target with
  | record => exact absurd mentioned noReference
  | field =>
    rcases mentions_fields_iff.mp mentioned with ⟨f, member, about⟩
    cases List.mem_singleton.mp member
    rcases about with rfl | refers
    · rfl
    · exact absurd refers noReference

/-- What a parsed condition mentions is named in the text. -/
theorem Mentions.of_parse {schema : Schema} {text : String} {c : Condition} {name : String}
    (parsed : parse schema text = .ok c) (mentioned : c.Mentions name) :
    NamesField schema text name := by
  rcases parse_eq_ok_iff_ofText.mp parsed with ⟨-, rfl⟩ | ⟨s, said, rfl⟩
  · obtain ⟨node, part, names⟩ := mentioned
    cases part
    cases names
  · refine ⟨s, said, ?_⟩
    revert mentioned
    refine Expression.toCondition_induction (motive := fun c => c.Mentions name →
      ∃ clause ∈ s.clauses, clause.target.name? = some name) ?_ ?_
    · intro clause member aboutField
      rw [← Sentence.clauses_eq] at member
      obtain ⟨part, saidPart⟩ := said.exists_spelled member
      exact ⟨clause, member, Mentions.of_clauseSpelled saidPart aboutField⟩
    · intro connective a b ofFirst ofSecond joined
      exact joined.of_join.elim ofFirst ofSecond

end Condition

end RecordFilter
