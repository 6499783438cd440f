import RecordFilter.Proofs.Printing.Words

/-!
# Printing what has been parsed

No text asks for a failure, or for constraints on the fields of a field. So what is parsed can
always be printed as an expression, and as a `WHERE` clause unless it compares with a value that
is not finite. No text spells such a value either, but a number may be too large for its format,
and is rounded to an infinity. The values stand in the tree in the order of the text, since each
clause is joined at the end. So what is reported is the first number that is too large.

## Main definitions

* `Lexeme.Overflows`: the number is too large for its kind
* `Condition.writtenValues`: the values that are printed, in their order

## Main results

* `Clause.Spelled.overflows_iff`: where the infinities of a clause come from
* `Condition.OfClauses.firstDefect?_eq`: a tree over clauses fails at its values only
* `Sentence.OfText.writtenValues_toCondition`: values keep the order of the text
* `print_of_parse`: what is parsed can be printed
-/

namespace RecordFilter

/-! ### Numbers that are too large -/

/-- The token is a number whose nearest value of the kind is an infinity. Without a kind, a number
with a point is one of double precision. -/
inductive Lexeme.Overflows : Lexeme → Option Kind → Value → Prop
  | single {s : String} {n : Numeral} (spelled : n.Spelled s.toList)
      (large : (Binary.ofNumeral .single n).magnitude = Binary.Format.single.infinity) :
      Overflows (.number s) (some .single) (.single (.ofNumeral _ n))
  | double {s : String} {n : Numeral} (spelled : n.Spelled s.toList)
      (large : (Binary.ofNumeral .double n).magnitude = Binary.Format.double.infinity) :
      Overflows (.number s) (some .double) (.double (.ofNumeral _ n))
  | untyped {s : String} {n : Numeral} (spelled : n.Spelled s.toList) (point : '.' ∈ s.toList)
      (large : (Binary.ofNumeral .double n).magnitude = Binary.Format.double.infinity) :
      Overflows (.number s) none (.double (.ofNumeral _ n))

theorem Binary.nonFinite?_eq_none_iff {F : Format} {x : Binary F} :
    x.nonFinite? = none ↔ x.isFinite = true := by
  rw [x.nonFinite?_eq]
  split <;> simp_all

/-- A numeral denotes a finite number unless it is too large. -/
theorem Binary.nonFinite?_ofNumeral_ne_none_iff {F : Format} {n : Numeral} :
    (ofNumeral F n).nonFinite? ≠ none ↔ (ofNumeral F n).magnitude = F.infinity := by
  rw [ne_eq, nonFinite?_eq_none_iff]
  constructor
  · intro notFinite
    by_contra distinct
    exact notFinite (isFinite_ofNumeral distinct)
  · intro large
    simp [isFinite, large]

theorem Value.nonFinite?_single_ne_none_iff {n : Numeral} :
    (single (.ofNumeral _ n)).nonFinite? ≠ none ↔
      (Binary.ofNumeral .single n).magnitude = Binary.Format.single.infinity := by
  rw [nonFinite?, ne_eq, Option.map_eq_none_iff]
  exact Binary.nonFinite?_ofNumeral_ne_none_iff

theorem Value.nonFinite?_double_ne_none_iff {n : Numeral} :
    (double (.ofNumeral _ n)).nonFinite? ≠ none ↔
      (Binary.ofNumeral .double n).magnitude = Binary.Format.double.infinity := by
  rw [nonFinite?, ne_eq, Option.map_eq_none_iff]
  exact Binary.nonFinite?_ofNumeral_ne_none_iff

section

variable {kind : Option Kind} {op : Operator} {operand : Operand} {l : Lexeme} {v : Value}

/-- The literals for values that are not finite are the numbers that are too large. -/
theorem Lexeme.overflows_iff :
    l.Overflows kind v ↔ l.Literal kind v ∧ v.nonFinite? ≠ none := by
  constructor
  · intro overflows
    cases overflows with
    | single spelled large =>
      exact ⟨.single spelled, Value.nonFinite?_single_ne_none_iff.mpr large⟩
    | double spelled large =>
      exact ⟨.double spelled, Value.nonFinite?_double_ne_none_iff.mpr large⟩
    | untyped spelled point large =>
      exact ⟨⟨_, .double point, .double spelled⟩, Value.nonFinite?_double_ne_none_iff.mpr large⟩
  · rintro ⟨literal, notFinite⟩
    cases kind with
    | some kind =>
      cases literal with
      | single spelled => exact .single spelled (Value.nonFinite?_single_ne_none_iff.mp notFinite)
      | double spelled => exact .double spelled (Value.nonFinite?_double_ne_none_iff.mp notFinite)
      | int | true | false | text => exact absurd rfl notFinite
    | none =>
      obtain ⟨kind, spelling, literal⟩ := literal
      cases literal with
      | double spelled =>
        cases spelling with
        | double point =>
          exact .untyped spelled point (Value.nonFinite?_double_ne_none_iff.mp notFinite)
      | single => cases spelling
      | int | true | false | text => exact absurd rfl notFinite

theorem Lexeme.Overflows.exists_number (overflows : l.Overflows kind v) :
    ∃ s, l = .number s := by
  cases overflows <;> exact ⟨_, rfl⟩

/-- A row of literals has the values that they stand for. -/
theorem mem_iff_exists_literal {members : List Lexeme} {values : List Value}
    (literals : List.Forall₂ (fun l v => l.Literal kind v) members values) :
    v ∈ values ↔ ∃ l ∈ members, l.Literal kind v := by
  induction literals with
  | nil => simp
  | @cons l w members values literal _ ih =>
    have same : v = w ↔ l.Literal kind v := by
      rw [← literal?_eq_some_iff, literal?_eq_some_iff.mpr literal, Option.some.injEq, eq_comm]
    rw [List.mem_cons, List.exists_mem_cons_iff, same, ih]

/-- The values of a right-hand side that are not finite are its numbers that are too large. -/
theorem Operand.Spelled.overflows_iff {right : List Lexeme}
    (taken : operand.Spelled kind op right) :
    v ∈ operand.values ∧ v.nonFinite? ≠ none ↔ ∃ l ∈ right, l.Overflows kind v := by
  have row {members : List Lexeme} {values : List Value}
      (literals : List.Forall₂ (fun l v => l.Literal kind v) members values) :
      v ∈ values ∧ v.nonFinite? ≠ none ↔ ∃ l ∈ members, l.Overflows kind v := by
    simp only [mem_iff_exists_literal literals, Lexeme.overflows_iff, ← and_assoc,
      exists_and_right]
  cases taken with
  | value scalar literal ordered => exact row (.cons literal .nil)
  | list membership nonempty literals oneKind =>
    rw [values, row literals]
    constructor
    · rintro ⟨l, member, overflows⟩
      exact ⟨l, List.mem_cons_of_mem _ (List.mem_append_left _ member), overflows⟩
    · rintro ⟨l, among, overflows⟩
      obtain ⟨s, rfl⟩ := overflows.exists_number
      exact ⟨_, by simpa using among, overflows⟩
  | pattern search searchable =>
    constructor
    · rintro ⟨member, -⟩
      cases member
    · rintro ⟨l, among, overflows⟩
      obtain ⟨s, rfl⟩ := overflows.exists_number
      cases List.mem_singleton.mp among

/-- An operator is spelled without numbers. -/
theorem Operator.Spelled.number_notMem {words : List Lexeme} (spelled : op.Spelled words)
    (s : String) : .number s ∉ words := by
  have notNumber {l : Lexeme} {keyword : String} (isWord : l.isKeyword keyword = true) :
      .number s ≠ l := by
    obtain ⟨word, rfl, -⟩ := Lexeme.isKeyword_eq_true_iff.mp isWord
    exact nofun
  cases spelled with
  | symbol => simp
  | isIn keyword => simpa using notNumber keyword
  | isMatch keyword => simpa using notNumber keyword
  | notIn negates keyword => simpa using ⟨notNumber negates, notNumber keyword⟩
  | notMatch negates keyword => simpa using ⟨notNumber negates, notNumber keyword⟩

end

/-- However a clause is said, its values that are not finite are the numbers that are too large
for the kind of its left-hand side. -/
theorem Clause.Spelled.overflows_iff {schema : Schema} {clause : Clause} {lexemes : List Lexeme}
    (said : clause.Spelled schema lexemes) {v : Value} :
    v ∈ clause.comparison.operand.values ∧ v.nonFinite? ≠ none ↔
      ∃ l ∈ lexemes, l.Overflows clause.target.kind? v := by
  obtain @⟨target, op, operand, name, words, right, named, operator, taken⟩ := said
  rw [taken.overflows_iff]
  constructor
  · rintro ⟨l, member, overflows⟩
    exact ⟨l, List.mem_cons_of_mem _ (List.mem_append_right _ member), overflows⟩
  · rintro ⟨l, among, overflows⟩
    obtain ⟨s, rfl⟩ := overflows.exists_number
    obtain rfl := named.eq_word
    have behind : .number s ∈ right := by simpa [operator.number_notMem s] using among
    exact ⟨_, behind, overflows⟩

/-! ### Values in the order of printing -/

/-- The values that a node itself writes. -/
def Occurrence.values (o : Occurrence) : List Value :=
  match o.node with
  | .comparison c => c.operand.values
  | _ => []

/-- A node without a defect of another sort fails at the first of its values that has no
literal. -/
theorem Occurrence.defect?_eq_of_printable {o : Occurrence} (refused : Value → Option PrintError)
    (printable : o.defect? (fun _ => none) = none) :
    o.defect? refused = o.values.findSome? refused := by
  obtain ⟨field, node⟩ := o
  cases node with
  | comparison => rfl
  | always | never | conj | disj | invert => rfl
  | failure => cases printable
  | fields =>
    cases field with
    | none => rfl
    | some outer => cases printable

theorem findSome?_defect?_eq {occurrences : List Occurrence} (refused : Value → Option PrintError)
    (printable : ∀ o ∈ occurrences, o.defect? (fun _ => none) = none) :
    occurrences.findSome? (Occurrence.defect? refused) =
      (occurrences.flatMap Occurrence.values).findSome? refused := by
  induction occurrences with
  | nil => rfl
  | cons o rest ih =>
    obtain ⟨first, later⟩ := List.forall_mem_cons.mp printable
    rw [findSome?_cons_eq_or, List.flatMap_cons, List.findSome?_append, ih later,
      o.defect?_eq_of_printable refused first]

namespace Condition

variable {schema : Schema} {c : Condition}

/-- The values that a condition writes, in the order of printing. -/
def writtenValues (c : Condition) : List Value := (c.walk none).flatMap Occurrence.values

theorem writtenValues_node (connective : Connective) (terms : List Condition) :
    (connective.node terms).writtenValues = terms.flatMap writtenValues := by
  have noValues : Occurrence.values ⟨none, connective.node terms⟩ = [] := by
    cases connective <;> rfl
  rw [writtenValues, walk_node, walkTerms_eq_flatMap, List.flatMap_cons, List.flatMap_assoc,
    noValues]
  rfl

theorem writtenValues_clause (clause : Clause) :
    clause.toCondition.writtenValues = clause.comparison.operand.values := by
  obtain ⟨target, comparison⟩ := clause
  cases target <;> simp [Clause.toCondition, onField, writtenValues, walk, walkConstraints,
    Occurrence.values]

/-- A clause that is joined to a tree writes its values behind those of the tree. -/
theorem OfClauses.writtenValues_join (tree : c.OfClauses schema) (connective : Connective)
    (clause : Clause) :
    (connective.join c clause.toCondition).writtenValues =
      c.writtenValues ++ clause.comparison.operand.values := by
  rcases tree.join_cases (clause.isTerm_toCondition connective) with
    ⟨-, joined⟩ | ⟨terms, rfl, -, -, joined⟩
  · rw [joined, writtenValues_node, List.flatMap_cons, List.flatMap_singleton,
      writtenValues_clause]
  · rw [joined, writtenValues_node, writtenValues_node, List.flatMap_append,
      List.flatMap_singleton, writtenValues_clause]

/-- No node of a tree over clauses has a defect but for its values. -/
theorem OfClauses.defect?_eq_none (tree : c.OfClauses schema) :
    ∀ o ∈ c.walk none, o.defect? (fun _ => none) = none := by
  induction tree with
  | @clause clause _ =>
    obtain ⟨target, comparison⟩ := clause
    cases target with
    | record => simp [Clause.toCondition, walk, Occurrence.defect?]
    | field =>
      simp [Clause.toCondition, onField, walk, walkConstraints, Occurrence.defect?]
  | @node connective terms _ _ _ parts =>
    have below : ∀ o ∈ walkTerms none terms, o.defect? (fun _ => none) = none := by
      intro o member
      rw [walkTerms_eq_flatMap] at member
      obtain ⟨t, among, inside⟩ := List.mem_flatMap.mp member
      exact parts t among o inside
    cases connective <;> exact List.forall_mem_cons.mpr ⟨rfl, below⟩

/-- A tree over clauses fails at the first of its values that has no literal. -/
theorem OfClauses.firstDefect?_eq (tree : c.OfClauses schema)
    (refused : Value → Option PrintError) :
    c.firstDefect? refused none = c.writtenValues.findSome? refused :=
  findSome?_defect?_eq refused tree.defect?_eq_none

end Condition

/-- The tree of an expression writes the values of the clauses in their order. -/
theorem Expression.writtenValues_toCondition {schema : Schema} {e : Expression}
    (written : ∀ clause ∈ e.first :: e.rest.map Prod.snd, clause.Written schema) :
    e.toCondition.writtenValues =
      (e.first :: e.rest.map Prod.snd).flatMap (·.comparison.operand.values) := by
  obtain ⟨first, rest⟩ := e
  obtain ⟨ofFirst, ofRest⟩ := List.forall_mem_cons.mp written
  have tree : first.toCondition.OfClauses schema := .clause ofFirst
  rw [toCondition, List.flatMap_cons, ← Condition.writtenValues_clause first]
  dsimp only
  generalize first.toCondition = soFar at tree
  clear written ofFirst
  induction rest generalizing soFar with
  | nil => exact (List.append_nil _).symm
  | cons item rest ih =>
    obtain ⟨ofNext, ofLater⟩ := List.forall_mem_cons.mp ofRest
    rw [List.foldl_cons, ih ofLater _ (tree.join item.1 ofNext), tree.writtenValues_join,
      List.map_cons, List.flatMap_cons, List.append_assoc]

/-- What a text says has the values of its clauses, in the order of the text. -/
theorem Sentence.OfText.writtenValues_toCondition {schema : Schema} {text : String} {s : Sentence}
    (said : s.OfText schema text) :
    s.toExpression.toCondition.writtenValues =
      s.clauses.flatMap (·.comparison.operand.values) := by
  have written := said.written
  rw [s.clauses_eq] at written ⊢
  exact Expression.writtenValues_toCondition written

/-- What is parsed can be printed as an expression. As a `WHERE` clause it can be printed unless
it has a value that is not finite, and the first of these is reported. The values have the order
of the text, and those that are not finite are the numbers of the text that are too large. -/
theorem print_of_parse {schema : Schema} {text : String} {c : Condition}
    (parsed : parse schema text = .ok c) :
    (∃ printed, c.print .expression = .ok printed) ∧
      ((∀ v ∈ c.writtenValues, v.nonFinite? = none) → ∃ printed, c.print .sqlite = .ok printed) ∧
      (∀ e, c.print .sqlite = .error e ↔ c.writtenValues.findSome? Value.nonFinite? = some e) ∧
      (tokenize text = .ok [] ∧ c.writtenValues = [] ∨
        ∃ tokens s, tokenize text = .ok tokens ∧
          Sentence.Spelled schema s (tokens.map Token.lexeme) ∧
          c.writtenValues = s.clauses.flatMap (·.comparison.operand.values) ∧
          ∀ clause ∈ s.clauses, ∃ lexemes ⊆ tokens.map Token.lexeme,
            clause.Spelled schema lexemes ∧
              ∀ v, v ∈ clause.comparison.operand.values ∧ v.nonFinite? ≠ none ↔
                ∃ l ∈ lexemes, l.Overflows clause.target.kind? v) := by
  -- both dialects walk through the same values and differ in what they refuse
  have first (refused : Value → Option PrintError) :
      c.firstDefect? refused none = c.writtenValues.findSome? refused := by
    rcases Condition.OfClauses.of_parse parsed with rfl | tree
    · rfl
    · exact tree.firstDefect?_eq refused
  have expression := Condition.reports_print reports_expression_value c
  have sqlite := Condition.reports_print reports_sqlite_value c
  rw [first] at expression sqlite
  refine ⟨?_, fun finite => ?_, sqlite.eq_error_iff, ?_⟩
  · rwa [List.findSome?_eq_none_iff.mpr fun _ _ => rfl] at expression
  · rwa [List.findSome?_eq_none_iff.mpr finite] at sqlite
  · rcases parse_eq_ok_iff_ofText.mp parsed with ⟨blank, rfl⟩ | ⟨s, said, rfl⟩
    · exact .inl ⟨blank, rfl⟩
    · have inOrder := said.writtenValues_toCondition
      obtain ⟨tokens, scanned, spelled⟩ := said
      refine .inr ⟨tokens, s, scanned, spelled, inOrder, ?_⟩
      intro clause member
      obtain ⟨lexemes, among, saidClause⟩ := spelled.exists_spelled member
      exact ⟨lexemes, among, saidClause, fun v => saidClause.overflows_iff⟩

/-- The second value of the list is too large for single precision, and so is the third. -/
theorem print_of_parse_of_large_members :
    ∃ schema text c, parse schema text = .ok c ∧
      (∃ printed, c.print .expression = .ok printed) ∧
      c.print .sqlite = .error (.nonFinite "-inf") := by
  let schema := (Schema.empty.withField "n" (.int .u8)).withField "x" .single
  let digits := "400000000000000000000000000000000000000"
  let text := "n = 3 OR x IN (1 -" ++ digits ++ " " ++ digits ++ ")"
  let large (negative : Bool) : Binary .single :=
    .ofNumeral .single ⟨negative, '4' :: List.replicate 38 '0', none⟩
  have parsed := parse_eq_ok_of_read schema text
    ⟨⟨.field "n" (.int .u8), ⟨.eq, .value (.int .u8 3 (by decide))⟩⟩,
      [(.or, ⟨.field "x" .single, ⟨.isIn, .set ⟨[.single (.ofNumeral .single ⟨false, ['1'], none⟩),
        .single (large true), .single (large false)]⟩⟩⟩)]⟩ (by decide +kernel)
  obtain ⟨printed, -, sqlite, -⟩ := print_of_parse parsed
  exact ⟨schema, text, _, parsed, printed, (sqlite _).mpr (by decide +kernel)⟩

end RecordFilter
