import RecordFilter.Proofs.Expression.Meaning

/-!
# Type safety of parsed expressions

Expressions are checked against a schema while they are read: literals have the kind of
their field, truth values are not ordered, and patterns are for texts. On a record that
answers every field of the schema with a value of its kind, nothing of that can go wrong
any more. Only patterns are not looked into before a record is at hand, so a malformed one
is the one error that is left.

## Main definitions

* `Comparison.WellTyped`: a comparison suits the values of a kind
* `Record.Conforms`: a record has the fields of a schema

## Main results

* `Clause.Spelled.wellTyped`: what the reader checks
* `Comparison.WellTyped.eval`: what an evaluation needs
* `parse_holds_ok_or_invalidPattern`: parsed expressions are type safe
-/

namespace RecordFilter

/-- The operator and the operand suit each other and the values of the kind. -/
inductive Comparison.WellTyped (kind : Kind) : Comparison → Prop
  | value {op : Operator} {v : Value} (scalar : op.isScalar = true) (sameKind : v.kind = kind)
      (ordered : op.isOrdering = true → kind ≠ .bool) : WellTyped kind ⟨op, .value v⟩
  | set {op : Operator} (s : ValueSet) (membership : op.isMembership = true) :
      WellTyped kind ⟨op, .set s⟩
  | pattern {op : Operator} (p : Pattern) (search : op.isPattern = true)
      (searchable : kind = .text) : WellTyped kind ⟨op, .pattern p⟩

/-- The comparison is a search for a pattern that is not well formed. -/
def Comparison.HasInvalidPattern [Pattern.Engine] (c : Comparison) (source : String) : Prop :=
  c.op.isPattern = true ∧ c.operand = .pattern ⟨source⟩ ∧ Pattern.isValid ⟨source⟩ = false

/-- The record answers every field of the schema with a value of the declared kind. -/
def Record.Conforms (record : Record) (schema : Schema) : Prop :=
  ∀ name kind, schema.kind? name = some kind → ∃ v, record.field name = some v ∧ v.kind = kind

theorem Record.conforms_empty (record : Record) : record.Conforms .empty := by
  intro name kind known
  cases known

/-- A record that also has one more field conforms to the schema that also names it. -/
theorem Record.Conforms.withField {record : Record} {schema : Schema} {name : String}
    {kind : Kind} (conforms : record.Conforms schema)
    (answered : ∃ v, record.field name = some v ∧ v.kind = kind) :
    record.Conforms (schema.withField name kind) := by
  intro other otherKind known
  rw [Schema.kind?_withField] at known
  split at known
  · next same =>
    subst same
    cases known
    exact answered
  · exact conforms other otherKind known

/-! ### What the reader checks -/

/-- An operand that is spelled for a known kind suits that kind. -/
theorem Operand.Spelled.wellTyped {kind : Kind} {op : Operator} {operand : Operand}
    {lexemes : List Lexeme} (spelled : operand.Spelled (some kind) op lexemes) :
    Comparison.WellTyped kind ⟨op, operand⟩ := by
  cases spelled with
  | value scalar literal ordered =>
    have sameKind := Kind.Literal.kind_eq literal
    rw [sameKind] at ordered
    exact .value scalar sameKind ordered
  | list membership => exact .set _ membership
  | pattern search searchable =>
    rcases searchable with unknown | text
    · cases unknown
    · exact .pattern _ search (Option.some.inj text)

/-- A clause that is not about the record itself names a field of the schema and suits its
kind. -/
theorem Clause.Spelled.wellTyped {schema : Schema} {clause : Clause} {lexemes : List Lexeme}
    (said : clause.Spelled schema lexemes) (onField : clause.target ≠ .record) :
    ∃ name kind, clause.target = .field name kind ∧ schema.kind? name = some kind ∧
      clause.comparison.WellTyped kind := by
  obtain ⟨named, -, taken⟩ := said
  cases named with
  | record => exact absurd rfl onField
  | field known => exact ⟨_, _, rfl, known, taken.wellTyped⟩

/-- Every clause of a row of items is said by some of its lexemes. -/
theorem Item.RowSpelled.exists_spelled {schema : Schema} {items : List Item}
    {lexemes : List Lexeme} (said : RowSpelled schema items lexemes) {clause : Clause}
    (member : clause ∈ items.map Item.clause) :
    ∃ part, part ⊆ lexemes ∧ clause.Spelled schema part := by
  induction said with
  | nil => cases member
  | cons item _ ih =>
    rcases List.mem_cons.mp member with rfl | later
    · cases item with
      | joined _ said =>
        exact ⟨_, List.subset_append_of_subset_left _ (List.subset_cons_self _ _), said⟩
      | plain _ said => exact ⟨_, List.subset_append_left _ _, said⟩
    · obtain ⟨part, among, said⟩ := ih later
      exact ⟨part, List.subset_append_of_subset_right _ among, said⟩

/-- Every clause of a sentence is said by some of its lexemes. -/
theorem Sentence.Spelled.exists_spelled {schema : Schema} {s : Sentence} {lexemes : List Lexeme}
    (spelled : s.Spelled schema lexemes) {clause : Clause} (member : clause ∈ s.clauses) :
    ∃ part, part ⊆ lexemes ∧ clause.Spelled schema part := by
  obtain ⟨first, later⟩ := spelled
  rcases List.mem_cons.mp member with rfl | laterMember
  · exact ⟨_, List.subset_append_left _ _, first⟩
  · obtain ⟨part, among, said⟩ := later.exists_spelled laterMember
    exact ⟨part, List.subset_append_of_subset_right _ among, said⟩

/-- Every clause of a text is said by some of its lexemes. -/
theorem Sentence.OfText.exists_spelled {schema : Schema} {s : Sentence} {text : String}
    (said : s.OfText schema text) {clause : Clause} (member : clause ∈ s.clauses) :
    ∃ part, clause.Spelled schema part := by
  obtain ⟨tokens, -, spelled⟩ := said
  obtain ⟨part, -, saidPart⟩ := spelled.exists_spelled member
  exact ⟨part, saidPart⟩

/-! ### What an evaluation needs -/

/-- Ordering operators have an outcome on values of one kind that has an order. -/
theorem compareValues_of_isOrdering {op : Operator} {subject operand : Value}
    (ordering : op.isOrdering = true) (sameKind : operand.kind = subject.kind)
    (hasOrder : subject.kind.isOrdered = true) :
    compareValues op subject operand = .ok (op.holds (subject.order? operand)) := by
  rw [compareValues_eq_of_isOrdering ordering]
  simp [sameKind, hasOrder]

/-- Values of one kind can be compared by any scalar operator, unless they are truth values
and the operator needs an order. -/
theorem exists_compareValues_eq_ok {op : Operator} {subject operand : Value}
    (scalar : op.isScalar = true) (sameKind : operand.kind = subject.kind)
    (ordered : op.isOrdering = true → subject.kind ≠ .bool) :
    ∃ b, compareValues op subject operand = .ok b := by
  by_cases ordering : op.isOrdering = true
  · have hasOrder : subject.kind.isOrdered = true := by
      rw [← Bool.not_eq_false, Kind.isOrdered_eq_false_iff]
      exact ordered ordering
    exact ⟨_, compareValues_of_isOrdering ordering sameKind hasOrder⟩
  · cases op with
    | eq | ne => exact ⟨_, rfl⟩
    | lt | le | gt | ge => exact absurd rfl ordering
    | isIn | notIn | isMatch | notMatch => cases scalar

section

variable [Pattern.Engine]

/-- Searching a text fails only if the pattern is malformed. -/
theorem searchValue_text (op : Operator) (text : String) (p : Pattern) :
    (∃ b, searchValue op (.text text) p = .ok b) ∨
      searchValue op (.text text) p = .error (.invalidPattern p.source) ∧ p.isValid = false := by
  unfold searchValue Pattern.isValid
  cases Pattern.Engine.search? p with
  | none => exact .inr ⟨rfl, rfl⟩
  | some occursIn => exact .inl ⟨occursIn text, rfl⟩

/-- A comparison that suits the kind of a scalar has an outcome on it, unless its pattern is
malformed. -/
theorem Comparison.WellTyped.eval {c : Comparison} {v : Value} (typed : c.WellTyped v.kind)
    (scope : Option Record) :
    (∃ b, c.eval (.ofValue v) scope = .ok b) ∨
      ∃ source, c.HasInvalidPattern source ∧
        c.eval (.ofValue v) scope = .error (.invalidPattern source) := by
  cases typed with
  | value scalar sameKind ordered =>
    exact .inl (exists_compareValues_eq_ok scalar sameKind ordered)
  | set s membership => exact .inl ⟨_, rfl⟩
  | @pattern op p search searchable =>
    cases v with
    | text text =>
      rcases searchValue_text op text p with ⟨b, found⟩ | ⟨failed, malformed⟩
      · refine .inl ⟨b != op.isNegative, ?_⟩
        simp only [Comparison.eval, Record.ofValue_scalar, found]
      · refine .inr ⟨p.source, ⟨search, rfl, malformed⟩, ?_⟩
        simp only [Comparison.eval, Record.ofValue_scalar, failed]
    | _ => cases searchable

/-- On a record with the fields of the schema, a clause on a field has an outcome unless its
pattern is malformed. -/
theorem Clause.Spelled.outcome {schema : Schema} {clause : Clause} {lexemes : List Lexeme}
    {record : Record} (said : clause.Spelled schema lexemes) (onField : clause.target ≠ .record)
    (conforms : record.Conforms schema) :
    (∃ b, clause.outcome record = .ok b) ∨
      ∃ source, clause.comparison.HasInvalidPattern source ∧
        clause.outcome record = .error (.invalidPattern source) := by
  obtain ⟨name, kind, target, known, typed⟩ := said.wellTyped onField
  obtain ⟨v, answered, rfl⟩ := conforms name kind known
  have onValue :
      clause.outcome record = clause.comparison.eval (.ofValue v) (some record) := by
    rw [Clause.outcome, target]
    simp only [answered]
  rw [onValue]
  exact typed.eval (some record)

end

/-! ### Whole expressions -/

/-- The clauses in force are the clauses that are written. -/
theorem Item.map_snd_connected (current : Connective) (items : List Item) :
    (connected current items).map Prod.snd = items.map Item.clause := by
  induction items generalizing current with
  | nil => rfl
  | cons item rest ih => rw [connected, List.map_cons, List.map_cons, ih]

/-- The clauses of a sentence are those of its expression. -/
theorem Sentence.clauses_eq (s : Sentence) :
    s.clauses = s.toExpression.first :: s.toExpression.rest.map Prod.snd := by
  rw [toExpression, Item.map_snd_connected, clauses]

/-- A parsed expression without clauses on the record itself has an outcome on every record
with the fields of the schema, unless the pattern of one of its clauses is malformed. No
other error is possible. -/
theorem parse_holds_ok_or_invalidPattern [Pattern.Engine] {schema : Schema} {text : String}
    {c : Condition} {record : Record} (parsed : parse schema text = .ok c)
    (onFields : ∀ s : Sentence, s.OfText schema text →
      ∀ clause ∈ s.clauses, clause.target ≠ .record)
    (conforms : record.Conforms schema) :
    (∃ b, c.holds record = .ok b) ∨
      ∃ source, c.holds record = .error (.invalidPattern source) ∧
        ∃ s : Sentence, s.OfText schema text ∧
          ∃ clause ∈ s.clauses, clause.comparison.HasInvalidPattern source := by
  rcases parse_eq_ok_iff_ofText.mp parsed with ⟨-, rfl⟩ | ⟨s, said, rfl⟩
  · exact .inl ⟨true, rfl⟩
  · rw [Expression.holds_toCondition]
    cases outcome : s.toExpression.outcome record with
    | ok b => exact .inl ⟨b, rfl⟩
    | error e =>
      obtain ⟨clause, member, failed⟩ := Expression.exists_clause_of_outcome_eq_error outcome
      rw [← Sentence.clauses_eq] at member
      obtain ⟨part, saidPart⟩ := said.exists_spelled member
      rcases saidPart.outcome (onFields s said clause member) conforms with
        ⟨b, fine⟩ | ⟨source, malformed, same⟩
      · rw [fine] at failed
        cases failed
      · rw [same] at failed
        cases failed
        exact .inr ⟨source, rfl, s, said, clause, member, malformed⟩

/-- The pattern of the second clause is malformed, and the first clause holds. -/
theorem parse_holds_ok_or_invalidPattern_of_open_group :
    ∃ schema record c, parse schema "n < 3 AND s NOT MATCH \"(\"" = .ok c ∧
      (∀ s : Sentence, s.OfText schema "n < 3 AND s NOT MATCH \"(\"" →
        ∀ clause ∈ s.clauses, clause.target ≠ .record) ∧
      record.Conforms schema ∧
      ∃ source, c.holds record = .error (.invalidPattern source) ∧
        ∃ s : Sentence, s.OfText schema "n < 3 AND s NOT MATCH \"(\"" ∧
          ∃ clause ∈ s.clauses, clause.comparison.HasInvalidPattern source := by
  let schema := (Schema.empty.withField "n" (.int .i64)).withField "s" .text
  let record := Record.ofFields [("n", .int .i64 1 (by decide)), ("s", .text "x")]
  obtain ⟨s, said, same⟩ := Sentence.exists_ofText_of_read schema "n < 3 AND s NOT MATCH \"(\""
    ⟨⟨.field "n" (.int .i64), ⟨.lt, .value (.int .i64 3 (by decide))⟩⟩,
      [(.and, ⟨.field "s" .text, ⟨.notMatch, .pattern ⟨"("⟩⟩⟩)]⟩ (by decide +kernel)
  have parsed := parse_eq_ok_iff_ofText.mpr (.inr ⟨s, said, rfl⟩)
  have onFields : ∀ other : Sentence, other.OfText schema "n < 3 AND s NOT MATCH \"(\"" →
      ∀ clause ∈ other.clauses, clause.target ≠ .record := by
    intro other otherSaid
    rw [other.clauses_eq, otherSaid.toExpression_unique said, same]
    decide
  have numbered : record.Conforms (Schema.empty.withField "n" (.int .i64)) :=
    record.conforms_empty.withField ⟨_, rfl, rfl⟩
  have conforms : record.Conforms schema := numbered.withField ⟨.text "x", rfl, rfl⟩
  refine ⟨schema, record, _, parsed, onFields, conforms, ?_⟩
  refine (parse_holds_ok_or_invalidPattern parsed onFields conforms).resolve_left ?_
  rintro ⟨b, fine⟩
  rw [Expression.holds_toCondition, same] at fine
  revert fine
  cases b <;> decide +kernel

end RecordFilter
