import RecordFilter.Proofs.Condition.Negation
import RecordFilter.Proofs.Condition.ShortCircuit
import RecordFilter.Proofs.Printing.Words

/-!
# Complementary operators in texts

A clause is put together from a target, an operator and an operand. The operators are spelled
in ways of their own, by a symbol, a keyword or two, and each takes its operand by rules of its
own. Complementary operators agree in all of that, so the text with the one is an expression
exactly if the text with the other one is, and the comparison in the second is the negation of
the comparison in the first.

Nothing is said about the operand text. It may be any text, even one that is cut off inside a
token or goes on with further clauses. What is asked of the two texts is that target and
operator are tokens of their own in front of it, however they are laid out and in whichever case
keywords are written.

## Main definitions

* `Clause.Composed`: a text is put together from a target, an operator and an operand
* `Clause.complement`: the clause with the complementary operator

## Main results

* `Clause.composed_of_blanks`: the parts with blanks between them
* `Sentence.OfText.complement`: the text with the other operator says the other sentence
* `parse_complement`: complementary operators in parsed texts
-/

namespace RecordFilter

/-! ### Operators -/

/-- What stands in front of some lexemes is one operator at most, in one spelling. -/
theorem Operator.Spelled.unique {op other : Operator}
    {words otherWords right otherRight : List Lexeme}
    (spelled : op.Spelled words) (otherSpelled : other.Spelled otherWords)
    (same : words ++ right = otherWords ++ otherRight) :
    op = other ∧ words = otherWords ∧ right = otherRight := by
  let placed (l : Lexeme) : Token := ⟨l, 0⟩
  have placedLexeme (row : List Lexeme) : (row.map placed).map Token.lexeme = row := by
    rw [List.map_map]
    exact List.map_id row
  rw [← placedLexeme words] at spelled
  rw [← placedLexeme otherWords] at otherSpelled
  obtain ⟨t, last, read⟩ :=
    Clause.exists_readOperator_of_spelled spelled (placed .opening) (right.map placed)
  obtain ⟨t', last', otherRead⟩ :=
    Clause.exists_readOperator_of_spelled otherSpelled (placed .opening) (otherRight.map placed)
  rw [← List.map_append, same, List.map_append, otherRead] at read
  simp only [Except.ok.injEq, Prod.mk.injEq] at read
  obtain ⟨rfl, -, -, sameRight⟩ := read
  have rights := congrArg (List.map Token.lexeme) sameRight
  rw [placedLexeme, placedLexeme] at rights
  subst rights
  exact ⟨rfl, List.append_cancel_right same, rfl⟩

/-- Complementary operators take the same operands. -/
theorem Operand.Spelled.complement {kind : Option Kind} {op : Operator} {operand : Operand}
    {right : List Lexeme} (taken : operand.Spelled kind op right) :
    operand.Spelled kind op.complement right := by
  cases taken with
  | value scalar literal ordered =>
    rw [← Operator.complement_isScalar] at scalar
    rw [← Operator.complement_isOrdering] at ordered
    exact .value scalar literal ordered
  | list membership nonempty literals oneKind =>
    rw [← Operator.complement_isMembership] at membership
    exact .list membership nonempty literals oneKind
  | pattern search searchable =>
    rw [← Operator.complement_isPattern] at search
    exact .pattern search searchable

/-! ### Clauses -/

namespace Clause

/-- The clause with the complementary operator. -/
def complement (c : Clause) : Clause := { c with comparison := c.comparison.complement }

theorem complement_complement (c : Clause) : c.complement.complement = c := by
  rw [complement, complement, Comparison.complement_complement]

/-- A clause and its complement have opposite outcomes on every record, and where a field is
missing they have the same error. -/
theorem opposite_eval_complement [Pattern.Engine] {c : Clause} (paired : c.comparison.WellPaired)
    (record : Record) (scope : Option Record) :
    Opposite (c.toCondition.eval record scope) (c.complement.toCondition.eval record scope) := by
  obtain ⟨target, comparison⟩ := c
  cases target with
  | record =>
    simp only [complement, toCondition, Condition.eval]
    exact Comparison.opposite_eval_complement paired record scope
  | field name kind =>
    have outcome (leaf : Comparison) :=
      Condition.eval_onField record scope (name, .comparison leaf)
    simp only [complement, toCondition, outcome, Condition.constraintOutcome]
    cases record.field name with
    | none => exact .error (.same _)
    | some v =>
      simp only [Condition.eval]
      exact Comparison.opposite_eval_complement paired (.ofValue v) (some record)

/-- The text is put together from a target, an operator and an operand. -/
def Composed (target : Lexeme) (op : Operator) (operand text : String) : Prop :=
  ∃ words, op.Spelled words ∧ Token.Begins operand.toList text.toList (target :: words)

/-- A target, the symbol of an operator and any operand, with blanks between them. -/
theorem composed_of_blanks {target : Lexeme} {name : String} (spelled : target.Spelled name.toList)
    (op : Operator) (operand : String) :
    Composed target op operand (name ++ " " ++ op.symbol ++ " " ++ operand) := by
  obtain ⟨words, operator, row⟩ := op.exists_rowSpelled
  refine ⟨words, operator, ?_⟩
  have later : Token.Begins operand.toList (' ' :: operand.toList) [] :=
    (Token.begins_nil operand.toList).cons_gap (by decide)
  have begins := ((Lexeme.RowSpelled.single spelled).append row).begins
    (Lexeme.isBoundary_cons (by decide)) later
  simpa [String.toList_append] using begins

end Clause

/-! ### Sentences -/

namespace Sentence

variable {schema : Schema} {clause : Clause} {items : List Item}

/-- With the words of the complementary operator in place of those of an operator, a sentence
is said with the complement of its first clause. -/
theorem Spelled.complement {op : Operator} {target : Lexeme} {words otherWords right : List Lexeme}
    (said : Spelled schema ⟨clause, items⟩ (target :: (words ++ right)))
    (operator : op.Spelled words) (complementary : op.complement.Spelled otherWords) :
    clause.comparison.op = op ∧ clause.comparison.WellPaired ∧
      Spelled schema ⟨clause.complement, items⟩ (target :: (otherWords ++ right)) := by
  generalize whole : target :: (words ++ right) = lexemes at said
  obtain ⟨first, later⟩ := said
  obtain ⟨named, spelled, taken⟩ := first
  rw [List.cons_append, List.append_assoc] at whole
  obtain ⟨rfl, rest⟩ := List.cons.inj whole
  obtain ⟨rfl, rfl, rfl⟩ := operator.unique spelled rest
  refine ⟨rfl, ?_, ?_⟩
  · exact (Condition.Built.of_operandSpelled taken).canonical.wellPaired
  · rw [← List.append_assoc, ← List.cons_append]
    exact .intro (.intro named complementary taken.complement) later

variable {target : Lexeme} {op : Operator} {operand text other : String}

/-- The text with the complementary operator says the sentence with the complement of the first
clause. -/
theorem OfText.complement (composed : Clause.Composed target op operand text)
    (complementary : Clause.Composed target op.complement operand other)
    (said : OfText schema ⟨clause, items⟩ text) :
    clause.comparison.op = op ∧ clause.comparison.WellPaired ∧
      OfText schema ⟨clause.complement, items⟩ other := by
  obtain ⟨tokens, read, spelled⟩ := said
  obtain ⟨words, operator, begins⟩ := composed
  obtain ⟨otherWords, otherOperator, otherBegins⟩ := complementary
  obtain ⟨later, readOperand, whole⟩ := (begins.tokenize_iff _).mp ⟨tokens, read, rfl⟩
  rw [← whole] at spelled
  obtain ⟨sameOp, paired, otherSpelled⟩ := spelled.complement operator otherOperator
  obtain ⟨otherTokens, otherRead, otherWhole⟩ :=
    (otherBegins.tokenize_iff _).mpr ⟨later, readOperand, rfl⟩
  refine ⟨sameOp, paired, otherTokens, otherRead, ?_⟩
  rw [otherWhole]
  exact otherSpelled

end Sentence

/-- A composed text is not empty, so it is parsed only if it says a sentence. -/
theorem Clause.Composed.exists_parse {schema : Schema} {target : Lexeme} {op : Operator}
    {operand text other : String} (composed : Composed target op operand text)
    (complementary : Composed target op.complement operand other)
    (parsed : ∃ c, parse schema text = .ok c) : ∃ c, parse schema other = .ok c := by
  obtain ⟨c, parsed⟩ := parsed
  rcases parse_eq_ok_iff_ofText.mp parsed with ⟨empty, -⟩ | ⟨⟨clause, items⟩, said, rfl⟩
  · obtain ⟨words, -, begins⟩ := composed
    obtain ⟨later, -, whole⟩ := (begins.tokenize_iff _).mp ⟨[], empty, rfl⟩
    cases whole
  · obtain ⟨-, -, otherSaid⟩ := said.complement composed complementary
    exact ⟨_, parse_eq_ok_iff_ofText.mpr (.inr ⟨_, otherSaid, rfl⟩)⟩

/-- Of two texts with complementary operators between the same target and the same operand,
either both are parsed or neither is, and what they say differs in nothing but the operator of
the clause. If they are single clauses, the comparison in the one is the negation of that in
the other, and on every record they have opposite outcomes. -/
theorem parse_complement [Pattern.Engine] (schema : Schema) {target : Lexeme} {op : Operator}
    {operand text other : String} (composed : Clause.Composed target op operand text)
    (complementary : Clause.Composed target op.complement operand other) :
    ((∃ c, parse schema text = .ok c) ↔ ∃ c, parse schema other = .ok c) ∧
    (∀ clause items, Sentence.OfText schema ⟨clause, items⟩ text ↔
      Sentence.OfText schema ⟨clause.complement, items⟩ other) ∧
    ∀ clause, Sentence.OfText schema ⟨clause, []⟩ text →
      clause.comparison.op = op ∧
      parse schema text = .ok clause.toCondition ∧
      parse schema other = .ok clause.complement.toCondition ∧
      .comparison clause.complement.comparison =
        (Condition.comparison clause.comparison).negate ∧
      ∀ (record : Record) (scope : Option Record),
        Opposite (clause.toCondition.eval record scope)
          (clause.complement.toCondition.eval record scope) := by
  -- the second text is complementary to the first as much as the first is to the second
  have back : Clause.Composed target op.complement.complement operand text := by
    rwa [Operator.complement_complement]
  refine ⟨⟨composed.exists_parse complementary, complementary.exists_parse back⟩,
    fun clause items => ⟨fun said => (said.complement composed complementary).2.2, fun said => ?_⟩,
    fun clause said => ?_⟩
  · have again := (said.complement complementary back).2.2
    rwa [Clause.complement_complement] at again
  · obtain ⟨sameOp, paired, otherSaid⟩ := said.complement composed complementary
    refine ⟨sameOp, ?_, ?_, rfl, Clause.opposite_eval_complement paired⟩
    · exact parse_eq_ok_iff_ofText.mpr (.inr ⟨_, said, rfl⟩)
    · exact parse_eq_ok_iff_ofText.mpr (.inr ⟨_, otherSaid, rfl⟩)

/-- The first text has no blanks. A field that is not a number is not less than one, so the other
clause holds of it, and a text fails with the operator of either clause. -/
theorem parse_complement_of_nan :
    let schema := Schema.ofList [("x", .double)]
    let nan := Record.ofFields [("x", .double (.ofBits .double 0x7FF8000000000000))]
    let text := Record.ofFields [("x", .text "1")]
    Clause.Composed (.word "x") .lt "1.0" "x<1.0" ∧
    Clause.Composed (.word "x") Operator.lt.complement "1.0" "x >= 1.0" ∧
    ∃ clause : Clause, Sentence.OfText schema ⟨clause, []⟩ "x<1.0" ∧
      parse schema "x<1.0" = .ok clause.toCondition ∧
      parse schema "x >= 1.0" = .ok clause.complement.toCondition ∧
      (∀ (record : Record) (scope : Option Record),
        Opposite (clause.toCondition.eval record scope)
          (clause.complement.toCondition.eval record scope)) ∧
      clause.toCondition.holds nan = .ok false ∧
      clause.complement.toCondition.holds nan = .ok true ∧
      clause.toCondition.holds text = .error (.kindMismatch .lt .double .text) ∧
      clause.complement.toCondition.holds text = .error (.kindMismatch .ge .double .text) := by
  intro schema nan text
  have name : (Lexeme.word "x").Spelled "x".toList := Lexeme.spelled_word (by decide) rfl
  have composed : Clause.Composed (.word "x") .lt "1.0" "x<1.0" := by
    refine ⟨[.symbol "<"], .symbol rfl, ?_⟩
    have first : Lexeme.read? "x<1.0".toList = some ⟨.word "x", ['x'], "<1.0".toList⟩ := rfl
    have second : Lexeme.read? "<1.0".toList = some ⟨.symbol "<", ['<'], "1.0".toList⟩ := rfl
    exact .cons_read first (.cons_read second (Token.begins_nil _))
  have complementary : Clause.Composed (.word "x") Operator.lt.complement "1.0" "x >= 1.0" :=
    Clause.composed_of_blanks name .ge "1.0"
  obtain ⟨⟨clause, items⟩, said, same⟩ := Sentence.exists_ofText_of_read schema "x<1.0"
    ⟨⟨.field "x" .double, ⟨.lt, .value (.double (.ofBits .double 0x3FF0000000000000))⟩⟩, []⟩
    (by decide +kernel)
  obtain ⟨rfl, rest⟩ := Expression.mk.inj same
  obtain rfl : items = [] := by
    cases items with
    | nil => rfl
    | cons => cases rest
  obtain ⟨-, -, single⟩ := parse_complement schema composed complementary
  obtain ⟨-, parsed, otherParsed, -, opposite⟩ := single _ said
  exact ⟨composed, complementary, _, said, parsed, otherParsed, opposite, rfl, rfl, rfl, rfl⟩

end RecordFilter
