import RecordFilter.Proofs.Printing.Literals
import RecordFilter.Proofs.Printing.Words

/-!
# Printed expressions are parsed back

Clauses are joined from left to right, and parentheses are for lists only. So of the trees
that are parsed, those can be read from their own text that are printed without parentheses:
a single clause, a conjunction of clauses, and a disjunction of comparisons with the record
itself. Their text is a sentence with one connective, and its condition is the tree again, up
to the last bit of every number, unless it has a list or an infinity in it.

## Main definitions

* `Condition.IsClause`, `Condition.IsFlat`: the trees that are printed without parentheses
* `Sentence.joined`: a sentence with one connective

## Main results

* `Sentence.toCondition_joined`: its condition is a node of the connective
* `Sentence.exists_joined_rowSpelled`: printed clauses with a connective between them say it
* `parse_print_of_isFlat`: parsing undoes printing
-/

namespace RecordFilter

open Dialect (expression)

/-! ### Sentences with one connective -/

namespace Sentence

/-- Clauses with the same connective between all of them. -/
def joined (connective : Connective) (first : Clause) (rest : List Clause) : Sentence :=
  ⟨first, rest.map fun c => ⟨some connective, c⟩⟩

theorem connected_joined (connective current : Connective) (rest : List Clause) :
    Item.connected current (rest.map fun c => ⟨some connective, c⟩) =
      rest.map fun c => (connective, c) := by
  induction rest generalizing current with
  | nil => rfl
  | cons c rest ih => rw [List.map_cons, Item.connected, Option.getD_some, ih, List.map_cons]

/-- The condition of several clauses with one connective is the node of their conditions. -/
theorem toCondition_joined (connective : Connective) (first second : Clause)
    (rest : List Clause) :
    (joined connective first (second :: rest)).toExpression.toCondition =
      connective.node ((first :: second :: rest).map Clause.toCondition) := by
  have simple : ∀ t ∈ (second :: rest).map Clause.toCondition, connective.IsTerm t := by
    intro t member
    obtain ⟨c, -, rfl⟩ := List.mem_map.mp member
    exact c.isTerm_toCondition connective
  -- the parser joins one clause after the other, and each becomes one more term of the node
  have folded := Connective.foldl_join (first.isTerm_toCondition connective) simple
  rw [← List.map_cons, ← List.map_cons] at folded
  rw [← folded, toExpression, joined, connected_joined, Expression.toCondition]
  simp only [List.foldl_map]

end Sentence

/-- The clause is printed as the text, and its words say the clause. -/
def Clause.IsReprinted (schema : Schema) (c : Clause) (text : String) : Prop :=
  c.print = .ok text ∧
    ∃ lexemes, c.Spelled schema lexemes ∧ Lexeme.RowSpelled lexemes text.toList

/-- The characters between two parts of a conjunction or disjunction. -/
def Connective.chars (connective : Connective) : List Char :=
  (connective.fragment.text expression).toList

/-- A connective is printed as its keyword between blanks. -/
theorem Connective.chars_eq (connective : Connective) :
    connective.chars = ' ' :: connective.keyword.toList ++ [' '] := by
  cases connective <;> rfl

theorem Connective.spelled_keyword (connective : Connective) :
    (Lexeme.word connective.keyword).Spelled connective.keyword.toList := by
  cases connective with
  | and => exact Lexeme.spelled_word (by decide) rfl
  | or => exact Lexeme.spelled_word (by decide) rfl

/-- Printed clauses with a connective between them are words that say the sentence. -/
theorem Sentence.exists_joined_rowSpelled {schema : Schema} (connective : Connective)
    {first : Clause} {rest : List Clause} {text : String} {texts : List String}
    (each : List.Forall₂ (Clause.IsReprinted schema) (first :: rest) (text :: texts)) :
    ∃ lexemes, (joined connective first rest).Spelled schema lexemes ∧
      Lexeme.RowSpelled lexemes
        (connective.chars.intercalate ((text :: texts).map String.toList)) := by
  induction rest generalizing first text texts with
  | nil =>
    obtain ⟨⟨-, lexemes, said, row⟩, later⟩ := List.forall₂_cons.mp each
    cases later
    have sentence := Sentence.Spelled.intro said .nil
    rw [List.append_nil] at sentence
    refine ⟨lexemes, sentence, ?_⟩
    rw [List.map_singleton, List.intercalate_singleton]
    exact row
  | cons second rest ih =>
    obtain ⟨⟨-, lexemes, said, row⟩, later⟩ := List.forall₂_cons.mp each
    obtain ⟨next, more, -, -, rfl⟩ := List.forall₂_cons_left_iff.mp later
    obtain ⟨others, sentence, rowLater⟩ := ih later
    have keyword : (Lexeme.word connective.keyword).isKeyword connective.keyword = true := by
      cases connective <;> decide +kernel
    refine ⟨lexemes ++ ([.word connective.keyword] ++ others), ?_, ?_⟩
    · cases sentence with
      | intro saidSecond items =>
        have item := Item.Spelled.joined keyword saidSecond
        have row := Item.RowSpelled.cons item items
        exact .intro said row
    · rw [List.map_cons, List.map_cons, List.intercalate_cons_cons, ← List.map_cons,
        connective.chars_eq]
      have spaced := row.append (.append (.single connective.spelled_keyword) rowLater)
      rw [connective.chars_eq] at spaced
      simpa using spaced

/-! ### Printed clauses -/

namespace Condition

/-- Clauses that need no parentheses are printed as one comparison each. -/
theorem mapM_fragments_clauses {clauses : List Clause} {texts : List String}
    {inside : Surrounding} (plain : ∀ c ∈ clauses, inside = .disj → c.target = .record)
    (printed : List.Forall₂ (fun c text => c.print = .ok text) clauses texts) :
    (clauses.map Clause.toCondition).mapM (fragments expression none inside) =
      .ok (texts.map fun text => [.atom text]) := by
  induction printed with
  | nil => rfl
  | @cons c text clauses texts first _ ih =>
    obtain ⟨plainFirst, plainLater⟩ := List.forall_mem_cons.mp plain
    have bare : ¬ (inside = .disj ∧ c.target ≠ .record) := by
      rintro ⟨within, field⟩
      exact field (plainFirst within)
    rw [List.map_cons, List.mapM_cons, Clause.fragments_toCondition first, if_neg bare,
      ih plainLater]
    rfl

/-- A node of clauses that need no parentheses is printed as the texts of the clauses with its
connective between them. -/
theorem print_node_clauses {connective : Connective} {clauses : List Clause}
    {texts : List String}
    (plain : ∀ c ∈ clauses, connective = .or → c.target = .record)
    (printed : List.Forall₂ (fun c text => c.print = .ok text) clauses texts) :
    (connective.node (clauses.map Clause.toCondition)).print expression =
      .ok (String.ofList (connective.chars.intercalate (texts.map String.toList))) := by
  have atoms : (texts.map fun text => [Fragment.atom text]).map (Fragment.chars expression) =
      texts.map String.toList := by
    simp [Fragment.chars, Fragment.text]
  have row : (connective.node (clauses.map Clause.toCondition)).fragments expression none .top =
      .ok ([connective.fragment].intercalate (texts.map fun text => [.atom text])) := by
    have bare (c : Clause) (member : c ∈ clauses) (within : connective.surrounding = .disj) :
        c.target = .record := by
      cases connective with
      | and => cases within
      | or => exact plain c member rfl
    rw [fragments_node, mapM_fragments_clauses bare printed]
    cases connective <;> rfl
  rw [print, row]
  refine congrArg Except.ok (String.toList_injective ?_)
  rw [Fragment.toList_join, Fragment.chars_intercalate, atoms, String.toList_ofList]
  rfl

/-! ### Flat trees -/

/-- The condition is a bare comparison or a constraint on a single field. -/
def IsClause : Condition → Prop
  | .comparison _ => True
  | .fields [_] => True
  | _ => False

/-- The condition is a bare comparison. -/
def IsBare : Condition → Prop
  | .comparison _ => True
  | _ => False

/-- The condition is printed without parentheses: a single clause, a conjunction of clauses,
or a disjunction of bare comparisons. -/
inductive IsFlat : Condition → Prop
  | clause {c : Condition} (single : c.IsClause) : IsFlat c
  | conj {terms : List Condition} (clauses : ∀ t ∈ terms, t.IsClause) : IsFlat (.conj terms)
  | disj {terms : List Condition} (bare : ∀ t ∈ terms, t.IsBare) : IsFlat (.disj terms)

variable {schema : Schema} {c : Condition}

theorem IsBare.isClause (bare : c.IsBare) : c.IsClause := by
  cases c <;> trivial

theorem not_isClause_node (connective : Connective) (terms : List Condition) :
    ¬ (connective.node terms).IsClause := by
  cases connective <;> exact id

/-- Of the trees, only the leaves are clauses. -/
theorem OfClauses.exists_clause (tree : c.OfClauses schema) (single : c.IsClause) :
    ∃ clause : Clause, clause.Written schema ∧ clause.toCondition = c := by
  cases tree with
  | clause written => exact ⟨_, written, rfl⟩
  | node connective => exact absurd single (not_isClause_node connective _)

/-- The terms of a tree are trees, and there are several. -/
theorem OfClauses.of_node (connective : Connective) {terms : List Condition}
    (tree : (connective.node terms).OfClauses schema) :
    2 ≤ terms.length ∧ ∀ t ∈ terms, t.OfClauses schema := by
  generalize shape : connective.node terms = c at tree
  cases tree with
  | @clause clause =>
    exfalso
    obtain ⟨target, comparison⟩ := clause
    cases target <;> cases connective <;> cases shape
  | node other several simple parts =>
    obtain ⟨-, rfl⟩ := Connective.node_injective shape
    exact ⟨several, parts⟩

/-- Terms that are clauses come from a list of clauses. -/
theorem exists_clauses {terms : List Condition} (trees : ∀ t ∈ terms, t.OfClauses schema)
    (single : ∀ t ∈ terms, t.IsClause) :
    ∃ clauses : List Clause, clauses.map Clause.toCondition = terms ∧
      ∀ c ∈ clauses, c.Written schema := by
  induction terms with
  | nil => exact ⟨[], rfl, by simp⟩
  | cons t rest ih =>
    obtain ⟨tree, treesLater⟩ := List.forall_mem_cons.mp trees
    obtain ⟨singleFirst, singleLater⟩ := List.forall_mem_cons.mp single
    obtain ⟨clause, written, rfl⟩ := tree.exists_clause singleFirst
    obtain ⟨clauses, rfl, writtenLater⟩ := ih treesLater singleLater
    exact ⟨clause :: clauses, rfl, List.forall_mem_cons.mpr ⟨written, writtenLater⟩⟩

/-- The comparison of a clause is a part of its condition. -/
theorem isPart_toCondition (clause : Clause) :
    (comparison clause.comparison).IsPart clause.toCondition := by
  obtain ⟨target, comparison⟩ := clause
  cases target with
  | record => exact .whole _
  | field => exact .fields List.mem_cons_self (.whole _)

/-- No other comparison is. -/
theorem eq_of_isPart_toCondition {clause : Clause} {c : Comparison}
    (part : (comparison c).IsPart clause.toCondition) : c = clause.comparison := by
  obtain ⟨target, comparison⟩ := clause
  cases target with
  | record =>
    cases part
    rfl
  | field =>
    cases part with
    | fields member below =>
      obtain rfl := List.mem_singleton.mp member
      cases below
      rfl

theorem isClause_toCondition (clause : Clause) : clause.toCondition.IsClause := by
  obtain ⟨target, comparison⟩ := clause
  cases target <;> trivial

end Condition

/-! ### Reading back -/

/-- The comparison is printed without a list and without an infinity. -/
def Comparison.HasLiteral (c : Comparison) : Prop :=
  c.op.isMembership = false ∧ ∀ v, c.operand = .value v → ¬ v.IsInfinite

open Condition

variable {schema : Schema}

/-- Written clauses are printed one by one. -/
theorem exists_isReprinted {clauses : List Clause}
    (written : ∀ c ∈ clauses, c.Written schema)
    (literals : ∀ c ∈ clauses, c.comparison.HasLiteral) :
    ∃ texts, List.Forall₂ (Clause.IsReprinted schema) clauses texts := by
  induction clauses with
  | nil => exact ⟨[], .nil⟩
  | cons c rest ih =>
    obtain ⟨writtenFirst, writtenLater⟩ := List.forall_mem_cons.mp written
    obtain ⟨⟨noList, finite⟩, literalsLater⟩ := List.forall_mem_cons.mp literals
    obtain ⟨text, lexemes, printed, said, row⟩ := writtenFirst.exists_rowSpelled noList finite
    obtain ⟨texts, later⟩ := ih writtenLater literalsLater
    exact ⟨text :: texts, .cons ⟨printed, lexemes, said, row⟩ later⟩

/-- A node of written clauses that need no parentheses is parsed from its text. -/
theorem parse_print_node_clauses (connective : Connective) {clauses : List Clause}
    (several : 2 ≤ clauses.length) (written : ∀ c ∈ clauses, c.Written schema)
    (literals : ∀ c ∈ clauses, c.comparison.HasLiteral)
    (plain : ∀ c ∈ clauses, connective = .or → c.target = .record) :
    ∃ printed,
      (connective.node (clauses.map Clause.toCondition)).print expression = .ok printed ∧
      parse schema printed = .ok (connective.node (clauses.map Clause.toCondition)) := by
  obtain ⟨texts, each⟩ := exists_isReprinted written literals
  refine ⟨_, print_node_clauses plain (each.imp fun _ _ reprinted => reprinted.1), ?_⟩
  match clauses, texts, each with
  | [], _, _ => cases several
  | [_], _, _ => simp at several
  | first :: second :: rest, text :: texts, each =>
    obtain ⟨lexemes, said, row⟩ := Sentence.exists_joined_rowSpelled connective each
    rw [← String.toList_ofList (l := connective.chars.intercalate _)] at row
    obtain ⟨tokens, scanned, rfl⟩ := row.exists_tokenize
    rw [← Sentence.toCondition_joined]
    exact parse_eq_ok_iff_ofText.mpr (.inr ⟨_, ⟨tokens, scanned, said⟩, rfl⟩)

/-- A parsed expression that is printed without parentheses is parsed from its own text, unless
it has a list or an infinity. What is parsed is the same tree, with the same bits in its
numbers. -/
theorem parse_print_of_isFlat {text : String} {m : Condition}
    (parsed : parse schema text = .ok m) (flat : m.IsFlat)
    (noList : ∀ c, (comparison c).IsPart m → c.op.isMembership = false)
    (finite : ∀ c v, (comparison c).IsPart m → c.operand = .value v → ¬ v.IsInfinite) :
    ∃ printed, m.print .expression = .ok printed ∧ parse schema printed = .ok m := by
  have literals {c : Comparison} (part : (comparison c).IsPart m) : c.HasLiteral :=
    ⟨noList c part, fun v => finite c v part⟩
  rcases OfClauses.of_parse parsed with rfl | tree
  · cases flat with
    | clause single => cases single
  · cases flat with
    | clause single =>
      obtain ⟨clause, written, rfl⟩ := tree.exists_clause single
      obtain ⟨listless, literal⟩ := literals (isPart_toCondition clause)
      obtain ⟨printed, lexemes, shown, said, row⟩ := written.exists_rowSpelled listless literal
      obtain ⟨tokens, scanned, rfl⟩ := row.exists_tokenize
      refine ⟨printed, ?_, ?_⟩
      · rw [Condition.print, Clause.fragments_toCondition shown, if_neg (by simp)]
        simp [Except.map, Fragment.text]
      · have sentence : (Sentence.joined .and clause []).Spelled schema
            (tokens.map Token.lexeme ++ []) := .intro said .nil
        rw [List.append_nil] at sentence
        exact parse_eq_ok_iff_ofText.mpr (.inr ⟨_, ⟨tokens, scanned, sentence⟩, rfl⟩)
    | @conj terms single =>
      obtain ⟨several, parts⟩ := OfClauses.of_node .and tree
      obtain ⟨clauses, rfl, written⟩ := exists_clauses parts single
      refine parse_print_node_clauses .and (by simpa using several) written ?_
        (by simp)
      intro c member
      exact literals (.conj (List.mem_map_of_mem member) (isPart_toCondition c))
    | @disj terms bare =>
      obtain ⟨several, parts⟩ := OfClauses.of_node .or tree
      obtain ⟨clauses, rfl, written⟩ :=
        exists_clauses parts fun t member => (bare t member).isClause
      refine parse_print_node_clauses .or (by simpa using several) written ?_ ?_
      · intro c member
        exact literals (.disj (List.mem_map_of_mem member) (isPart_toCondition c))
      · intro c member _
        have leaf := bare _ (List.mem_map_of_mem member)
        obtain ⟨target, comparison⟩ := c
        cases target with
        | record => rfl
        | field => cases leaf

/-- A field has the name of a connective, a text has marks and backslashes in it, and one of
the numbers has no exact value in single precision. -/
theorem parse_print_of_isFlat_keyword_field :
    ∃ schema m printed,
      parse schema ("AND >= -1.50, s != \"a\\\"b\\\\\" _ = +7 AND AND < 16777217 " ++
        "AND s NOT MATCH \"x y\" AND _ != 2.5") = .ok m ∧ m.IsFlat ∧
      (∀ c, (comparison c).IsPart m → c.op.isMembership = false) ∧
      (∀ c v, (comparison c).IsPart m → c.operand = .value v → ¬ v.IsInfinite) ∧
      printed = "AND >= -1.5 AND s != \"a\\\"b\\\\\" AND _ = 7 AND AND < 16777216.0 " ++
        "AND s NOT MATCH \"x y\" AND _ != 2.5" ∧
      m.print .expression = .ok printed ∧ parse schema printed = .ok m := by
  let schema := (Schema.empty.withField "AND" .single).withField "s" .text
  let first : Clause :=
    ⟨.field "AND" .single, ⟨.ge, .value (.single ⟨true, 1069547520, by decide⟩)⟩⟩
  let rest : List Clause :=
    [⟨.field "s" .text, ⟨.ne, .value (.text "a\"b\\")⟩⟩,
      ⟨.record, ⟨.eq, .value (.int .i64 7 (by decide))⟩⟩,
      ⟨.field "AND" .single, ⟨.lt, .value (.single ⟨false, 1266679808, by decide⟩)⟩⟩,
      ⟨.field "s" .text, ⟨.notMatch, .pattern ⟨"x y"⟩⟩⟩,
      ⟨.record, ⟨.ne, .value (.double ⟨false, 4612811918334230528, by decide⟩)⟩⟩]
  let sentence : Expression := ⟨first, rest.map fun c => (.and, c)⟩
  have parsed : parse schema ("AND >= -1.50, s != \"a\\\"b\\\\\" _ = +7 AND AND < 16777217 " ++
      "AND s NOT MATCH \"x y\" AND _ != 2.5") = .ok sentence.toCondition :=
    parse_eq_ok_of_read _ _ _ (by decide +kernel)
  have shape : sentence.toCondition = .conj ((first :: rest).map Clause.toCondition) := rfl
  have among {c : Comparison} (part : (comparison c).IsPart sentence.toCondition) :
      ∃ clause ∈ first :: rest, c = clause.comparison := by
    rw [shape] at part
    cases part with
    | conj member below =>
      obtain ⟨clause, found, rfl⟩ := List.mem_map.mp member
      exact ⟨clause, found, eq_of_isPart_toCondition below⟩
  have flat : sentence.toCondition.IsFlat := by
    rw [shape]
    refine .conj fun t member => ?_
    obtain ⟨clause, -, rfl⟩ := List.mem_map.mp member
    exact isClause_toCondition clause
  have noList : ∀ c, (comparison c).IsPart sentence.toCondition → c.op.isMembership = false := by
    intro c part
    obtain ⟨clause, member, rfl⟩ := among part
    exact (by decide : ∀ clause ∈ first :: rest, clause.comparison.op.isMembership = false)
      clause member
  have finite : ∀ c v, (comparison c).IsPart sentence.toCondition → c.operand = .value v →
      ¬ v.IsInfinite := by
    intro c v part operand
    obtain ⟨clause, member, rfl⟩ := among part
    simp only [first, rest, List.mem_cons, List.not_mem_nil, or_false] at member
    rcases member with rfl | rfl | rfl | rfl | rfl | rfl <;> cases operand <;> decide
  have shown : sentence.toCondition.print .expression =
      .ok ("AND >= -1.5 AND s != \"a\\\"b\\\\\" AND _ = 7 AND AND < 16777216.0 " ++
        "AND s NOT MATCH \"x y\" AND _ != 2.5") := by
    decide +kernel
  obtain ⟨printed, same, again⟩ := parse_print_of_isFlat parsed flat noList finite
  rw [shown] at same
  cases same
  exact ⟨schema, _, _, parsed, flat, noList, finite, rfl, shown, again⟩

end RecordFilter
