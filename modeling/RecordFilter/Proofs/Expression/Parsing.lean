import RecordFilter.Expression.Reading
import RecordFilter.Proofs.Expression.Grammar

/-!
# Parsing is deciding the grammar

Every reader takes from the front of a row of tokens exactly what the grammar allows
there. None of them looks behind what it takes, so each is described by one equivalence:
it returns a result and a rest exactly if the tokens before the rest spell the result.

## Main results

* `Clause.read_eq_ok_iff`: the clauses that are read
* `Expression.read_eq_ok_iff`: the sentences that are read
* `Clause.Spelled.toCondition_eq`: the tree of a clause
* `parseTokens_eq_ok_iff`: the rows of tokens that are accepted, and the tree of each
-/

namespace RecordFilter

/-- Keywords are words, and the case of their letters does not count. -/
theorem Lexeme.isKeyword_eq_true_iff {l : Lexeme} {keyword : String} :
    l.isKeyword keyword = true ↔ ∃ s, l = .word s ∧ s.toUpper = keyword := by
  cases l <;> simp [isKeyword]

theorem Operator.ofSymbol?_eq_some_iff {s : String} {op : Operator} :
    ofSymbol? s = some op ↔ op.isScalar = true ∧ s = op.symbol := by
  constructor
  · intro h
    unfold ofSymbol? at h
    split at h <;> cases h <;> exact ⟨rfl, rfl⟩
  · rintro ⟨scalar, rfl⟩
    exact ofSymbol?_symbol scalar

theorem Kind.isOrdered_eq_false_iff {kind : Kind} : kind.isOrdered = false ↔ kind = .bool := by
  cases kind <;> simp [isOrdered]

/-- A list can be built exactly from values of one kind. -/
theorem ValueSet.ofValues_eq_ok_iff {values : List Value} {s : ValueSet} :
    ofValues values = .ok s ↔ s = ⟨values⟩ ∧ ∃ common, ∀ v ∈ values, v.kind = common := by
  constructor
  · intro h
    obtain ⟨uniform, same⟩ := uniform_of_ofValues h
    have shape : s = ⟨values⟩ := by rw [← same]
    subst shape
    refine ⟨rfl, ?_⟩
    cases values with
    | nil => exact ⟨.bool, by simp⟩
    | cons first rest =>
      exact ⟨first.kind, fun v member => (Option.some.inj (uniform v member)).symm⟩
  · rintro ⟨rfl, common, oneKind⟩
    cases values with
    | nil => rfl
    | cons first rest =>
      have noOther : rest.find? (fun v => v.kind != first.kind) = none := by
        rw [List.find?_eq_none]
        intro v member
        have same := oneKind v (List.mem_cons_of_mem _ member)
        simp [same, oneKind first List.mem_cons_self]
      simp only [ofValues, noOther]

namespace Clause

theorem readTarget_eq_ok_iff {schema : Schema} {t : Token} {target : Target} :
    readTarget schema t = .ok target ↔ target.Named schema t.lexeme := by
  obtain ⟨lexeme, offset⟩ := t
  constructor
  · intro h
    unfold readTarget at h
    split at h
    · next name word =>
      rw [word]
      split at h
      · next same => cases h; subst same; exact .record
      · next other =>
        split at h
        · next kind known => cases h; exact .field known other
        · cases h
    · cases h
  · intro named
    cases named with
    | record => rfl
    | field known other => simp [readTarget, other, known]

/-- The tokens of an operator that is read spell it. -/
theorem exists_spelled_of_readOperator {before : Token} {tokens rest : List Token}
    {op : Operator} {opToken last : Token}
    (h : readOperator before tokens = .ok (op, opToken, last, rest)) :
    ∃ used, tokens = used ++ rest ∧ op.Spelled (used.map Token.lexeme) := by
  cases tokens with
  | nil => cases h
  | cons t tail =>
    -- the cases are those of the reader: a symbol, one word, and two words after `NOT`
    unfold readOperator at h
    dsimp only at h
    split at h
    · next s symbol =>
      split at h
      · next read =>
        cases h
        obtain ⟨scalar, rfl⟩ := Operator.ofSymbol?_eq_some_iff.mp read
        refine ⟨[opToken], rfl, ?_⟩
        rw [List.map_singleton, symbol]
        exact .symbol scalar
      · cases h
    · split at h
      · next keyword => cases h; exact ⟨[opToken], rfl, .isIn keyword⟩
      · split at h
        · next keyword => cases h; exact ⟨[opToken], rfl, .isMatch keyword⟩
        · split at h
          · next negates =>
            cases tail with
            | nil => cases h
            | cons word tail =>
              dsimp only at h
              split at h
              · next keyword => cases h; exact ⟨[opToken, last], rfl, .notIn negates keyword⟩
              · split at h
                · next keyword => cases h; exact ⟨[opToken, last], rfl, .notMatch negates keyword⟩
                · cases h
          · cases h

/-- An operator that is spelled is read, whatever follows it. -/
theorem exists_readOperator_of_spelled {used : List Token} {op : Operator}
    (spelled : op.Spelled (used.map Token.lexeme)) (before : Token) (rest : List Token) :
    ∃ opToken last, readOperator before (used ++ rest) = .ok (op, opToken, last, rest) := by
  generalize lexemes : used.map Token.lexeme = words at spelled
  cases spelled with
  | symbol scalar =>
    obtain ⟨t, rfl, same⟩ := List.map_eq_singleton_iff.mp lexemes
    exact ⟨t, t, by simp [readOperator, same, Operator.ofSymbol?_symbol scalar]⟩
  | isIn keyword =>
    obtain ⟨t, rfl, word⟩ := List.map_eq_singleton_iff.mp lexemes
    obtain ⟨s, rfl, upper⟩ := Lexeme.isKeyword_eq_true_iff.mp keyword
    exact ⟨t, t, by simp [readOperator, word, Lexeme.isKeyword, upper]⟩
  | isMatch keyword =>
    obtain ⟨t, rfl, word⟩ := List.map_eq_singleton_iff.mp lexemes
    obtain ⟨s, rfl, upper⟩ := Lexeme.isKeyword_eq_true_iff.mp keyword
    exact ⟨t, t, by simp [readOperator, word, Lexeme.isKeyword, upper]⟩
  | notIn negates keyword =>
    obtain ⟨t, _, rfl, word, later⟩ := List.map_eq_cons_iff.mp lexemes
    obtain ⟨next, rfl, second⟩ := List.map_eq_singleton_iff.mp later
    obtain ⟨s, rfl, upper⟩ := Lexeme.isKeyword_eq_true_iff.mp negates
    obtain ⟨s', rfl, upper'⟩ := Lexeme.isKeyword_eq_true_iff.mp keyword
    exact ⟨t, next, by simp [readOperator, word, second, Lexeme.isKeyword, upper, upper']⟩
  | notMatch negates keyword =>
    obtain ⟨t, _, rfl, word, later⟩ := List.map_eq_cons_iff.mp lexemes
    obtain ⟨next, rfl, second⟩ := List.map_eq_singleton_iff.mp later
    obtain ⟨s, rfl, upper⟩ := Lexeme.isKeyword_eq_true_iff.mp negates
    obtain ⟨s', rfl, upper'⟩ := Lexeme.isKeyword_eq_true_iff.mp keyword
    exact ⟨t, next, by simp [readOperator, word, second, Lexeme.isKeyword, upper, upper']⟩

/-- An operator is read exactly if the tokens before the rest spell it. -/
theorem readOperator_eq_ok_iff {before : Token} {tokens rest : List Token} {op : Operator} :
    (∃ opToken last, readOperator before tokens = .ok (op, opToken, last, rest)) ↔
      ∃ used, tokens = used ++ rest ∧ op.Spelled (used.map Token.lexeme) := by
  constructor
  · rintro ⟨opToken, last, read⟩
    exact exists_spelled_of_readOperator read
  · rintro ⟨used, rfl, spelled⟩
    exact exists_readOperator_of_spelled spelled before rest

theorem readLiteral_eq_ok_iff {kind : Option Kind} {t : Token} {v : Value} :
    readLiteral kind t = .ok v ↔ t.lexeme.Literal kind v := by
  rw [← literal?_eq_some_iff, readLiteral]
  cases literal? kind t.lexeme <;> simp

/-- The members of a list are read up to the first token that is no literal, which has to
be the closing parenthesis. -/
theorem readMembers_eq_ok_iff {kind : Option Kind} {before : Token} {tokens rest : List Token}
    {values : List Value} :
    readMembers kind before tokens = .ok (values, rest) ↔
      ∃ members closing, tokens = members ++ closing :: rest ∧ closing.lexeme = .closing ∧
        List.Forall₂ (fun (t : Token) v => t.lexeme.Literal kind v) members values := by
  induction tokens generalizing before values with
  | nil => simp [readMembers]
  | cons t tail ih =>
    rw [readMembers]
    constructor
    · intro h
      split at h
      · next closes =>
        cases h
        exact ⟨[], t, rfl, closes, .nil⟩
      · split at h
        · cases h
        · next v read =>
          split at h
          · cases h
          · next values' rest' later =>
            cases h
            obtain ⟨members, closing, rfl, closes, literals⟩ := ih.mp later
            exact ⟨t :: members, closing, rfl, closes,
              .cons (readLiteral_eq_ok_iff.mp read) literals⟩
    · rintro ⟨members, closing, same, closes, literals⟩
      cases literals with
      | nil =>
        obtain ⟨rfl, rfl⟩ := List.cons.inj same
        rw [if_pos closes]
      | cons literal literals =>
        obtain ⟨rfl, rfl⟩ := List.cons.inj same
        -- a parenthesis is no literal, so the list goes on for as long as there are members
        have noClosing : t.lexeme ≠ .closing := by
          intro closes
          rw [closes] at literal
          exact Lexeme.not_literal_closing literal
        rw [if_neg noClosing, readLiteral_eq_ok_iff.mpr literal]
        simp only [ih.mpr ⟨_, closing, rfl, closes, literals⟩]

/-- The value of a scalar operator is one literal. -/
theorem readValue_eq_ok_iff {op : Operator} {opToken : Token} {kind : Option Kind}
    {before : Token} {tokens rest : List Token} {operand : Operand} :
    readValue op opToken kind before tokens = .ok (operand, rest) ↔
      ∃ t v, tokens = t :: rest ∧ operand = .value v ∧ t.lexeme.Literal kind v ∧
        (op.isOrdering = true → v.kind ≠ .bool) := by
  constructor
  · intro h
    cases tokens with
    | nil => cases h
    | cons t tail =>
      rw [readValue] at h
      split at h
      · cases h
      · next v read =>
        split at h
        · cases h
        · next ordered =>
          cases h
          refine ⟨t, v, rfl, rfl, readLiteral_eq_ok_iff.mp read, fun ordering truth => ?_⟩
          simp [ordering, Kind.isOrdered_eq_false_iff.mpr truth] at ordered
  · rintro ⟨t, v, rfl, rfl, literal, ordered⟩
    have allowed : ¬ (op.isOrdering && !v.kind.isOrdered) = true := by
      rw [Bool.and_eq_true, Bool.not_eq_true', Kind.isOrdered_eq_false_iff]
      exact fun ⟨ordering, truth⟩ => ordered ordering truth
    rw [readValue, readLiteral_eq_ok_iff.mpr literal]
    exact if_neg allowed

/-- The list of a membership operator is one or more literals of one kind between
parentheses. -/
theorem readList_eq_ok_iff {op : Operator} {kind : Option Kind} {before : Token}
    {tokens rest : List Token} {operand : Operand} :
    readList op kind before tokens = .ok (operand, rest) ↔
      ∃ opening members closing values, tokens = opening :: (members ++ closing :: rest) ∧
        operand = .set ⟨values⟩ ∧ opening.lexeme = .opening ∧ closing.lexeme = .closing ∧
        values ≠ [] ∧ (∃ common, ∀ v ∈ values, v.kind = common) ∧
        List.Forall₂ (fun (t : Token) v => t.lexeme.Literal kind v) members values := by
  constructor
  · intro h
    cases tokens with
    | nil => cases h
    | cons t tail =>
      rw [readList] at h
      split at h
      · cases h
      · next opens =>
        split at h
        · cases h
        · cases h
        · next values rest' notEmpty read =>
          split at h
          · cases h
          · next set built =>
            cases h
            obtain ⟨rfl, oneKind⟩ := ValueSet.ofValues_eq_ok_iff.mp built
            obtain ⟨members, closing, rfl, closes, literals⟩ := readMembers_eq_ok_iff.mp read
            exact ⟨t, members, closing, values, rfl, rfl, Decidable.not_not.mp opens, closes,
              notEmpty, oneKind, literals⟩
  · rintro ⟨t, members, closing, values, rfl, rfl, opens, closes, notEmpty, oneKind, literals⟩
    have read : readMembers kind t (members ++ closing :: rest) = .ok (values, rest) :=
      readMembers_eq_ok_iff.mpr ⟨members, closing, rfl, closes, literals⟩
    have built := ValueSet.ofValues_eq_ok_iff.mpr ⟨rfl, oneKind⟩
    rw [readList, if_neg (not_not_intro opens), read]
    cases values with
    | nil => exact absurd rfl notEmpty
    | cons v rest => simp only [built]

/-- The pattern of a search operator is one quoted text. -/
theorem readPattern_eq_ok_iff {op : Operator} {opToken : Token} {kind : Option Kind}
    {before : Token} {tokens rest : List Token} {operand : Operand} :
    readPattern op opToken kind before tokens = .ok (operand, rest) ↔
      ∃ t source, tokens = t :: rest ∧ operand = .pattern ⟨source⟩ ∧
        t.lexeme = .text source ∧ (kind = none ∨ kind = some .text) := by
  have searchable_iff : kind.filter (· ≠ .text) = none ↔ kind = none ∨ kind = some .text := by
    cases kind <;> simp
  constructor
  · intro h
    unfold readPattern at h
    split at h
    · cases h
    · next searchable =>
      split at h
      · cases h
      · next t tail =>
        split at h
        · next source text =>
          cases h
          exact ⟨t, source, rfl, rfl, text, searchable_iff.mp searchable⟩
        · cases h
  · rintro ⟨t, source, rfl, rfl, text, searchable⟩
    unfold readPattern
    rw [searchable_iff.mpr searchable]
    simp only [text]

/-- An operand is read exactly if the tokens before the rest spell one that the operator
takes. -/
theorem readOperand_eq_ok_iff {op : Operator} {opToken : Token} {kind : Option Kind}
    {before : Token} {tokens rest : List Token} {operand : Operand} :
    readOperand op opToken kind before tokens = .ok (operand, rest) ↔
      ∃ used, tokens = used ++ rest ∧
        Operand.Spelled kind op operand (used.map Token.lexeme) := by
  constructor
  · intro h
    unfold readOperand at h
    split at h
    · next membership =>
      obtain ⟨opening, members, closing, values, rfl, rfl, opens, closes, notEmpty,
        ⟨common, oneKind⟩, literals⟩ := readList_eq_ok_iff.mp h
      refine ⟨opening :: (members ++ [closing]), by simp, ?_⟩
      have lexemes : List.Forall₂ (fun l v => Lexeme.Literal l kind v)
          (members.map Token.lexeme) values := List.forall₂_map_left_iff.mpr literals
      simpa [opens, closes] using Operand.Spelled.list membership notEmpty lexemes oneKind
    · next noMembership =>
      split at h
      · next search =>
        obtain ⟨t, source, rfl, rfl, text, searchable⟩ := readPattern_eq_ok_iff.mp h
        refine ⟨[t], rfl, ?_⟩
        rw [List.map_singleton, text]
        exact .pattern search searchable
      · next noSearch =>
        obtain ⟨t, v, rfl, rfl, literal, ordered⟩ := readValue_eq_ok_iff.mp h
        have scalar : op.isScalar = true := by simp [Operator.isScalar, noMembership, noSearch]
        exact ⟨[t], rfl, .value scalar literal ordered⟩
  · rintro ⟨used, rfl, spelled⟩
    unfold readOperand
    generalize lexemes : used.map Token.lexeme = right at spelled
    cases spelled with
    | value scalar literal ordered =>
      obtain ⟨t, rfl, rfl⟩ := List.map_eq_singleton_iff.mp lexemes
      obtain ⟨noMembership, noSearch⟩ : op.isMembership = false ∧ op.isPattern = false := by
        simpa [Operator.isScalar] using scalar
      simp only [noMembership, noSearch, Bool.false_eq_true, if_false]
      exact readValue_eq_ok_iff.mpr ⟨t, _, rfl, rfl, literal, ordered⟩
    | list membership notEmpty literals oneKind =>
      obtain ⟨opening, _, rfl, opens, inner⟩ := List.map_eq_cons_iff.mp lexemes
      obtain ⟨members, _, rfl, rfl, last⟩ := List.map_eq_append_iff.mp inner
      obtain ⟨closing, rfl, closes⟩ := List.map_eq_singleton_iff.mp last
      rw [if_pos membership, readList_eq_ok_iff]
      exact ⟨opening, members, closing, _, by simp, rfl, opens, closes, notEmpty,
        ⟨_, oneKind⟩, List.forall₂_map_left_iff.mp literals⟩
    | pattern search searchable =>
      obtain ⟨t, rfl, text⟩ := List.map_eq_singleton_iff.mp lexemes
      have noMembership : op.isMembership = false := by
        cases op <;> simp_all [Operator.isPattern, Operator.isMembership]
      simp only [noMembership, search, Bool.false_eq_true, if_false, if_true]
      exact readPattern_eq_ok_iff.mpr ⟨t, _, rfl, rfl, text, searchable⟩

/-- A clause is read exactly if the tokens before the rest say it. -/
theorem read_eq_ok_iff {schema : Schema} {before : Option Token} {tokens rest : List Token}
    {c : Clause} :
    read schema before tokens = .ok (c, rest) ↔
      ∃ used, tokens = used ++ rest ∧ c.Spelled schema (used.map Token.lexeme) := by
  constructor
  · intro h
    cases tokens with
    | nil => cases h
    | cons t tail =>
      rw [read] at h
      split at h
      · cases h
      · next target targetRead =>
        split at h
        · cases h
        · next op opToken last afterOperator operatorRead =>
          split at h
          · cases h
          · next operand afterOperand operandRead =>
            cases h
            have named := readTarget_eq_ok_iff.mp targetRead
            obtain ⟨words, rfl, operator⟩ :=
              readOperator_eq_ok_iff.mp ⟨opToken, last, operatorRead⟩
            obtain ⟨right, rfl, taken⟩ := readOperand_eq_ok_iff.mp operandRead
            refine ⟨t :: (words ++ right), by simp, ?_⟩
            rw [List.map_cons, List.map_append]
            exact .intro named operator taken
  · rintro ⟨used, rfl, spelled⟩
    generalize lexemes : used.map Token.lexeme = row at spelled
    obtain ⟨named, operator, taken⟩ := spelled
    obtain ⟨t, _, rfl, rfl, later⟩ := List.map_eq_cons_iff.mp lexemes
    obtain ⟨words, right, rfl, rfl, rfl⟩ := List.map_eq_append_iff.mp later
    obtain ⟨opToken, last, operatorRead⟩ :=
      exists_readOperator_of_spelled operator t (right ++ rest)
    rw [← List.append_assoc] at operatorRead
    rw [List.cons_append, read, readTarget_eq_ok_iff.mpr named]
    simp only [operatorRead, readOperand_eq_ok_iff.mpr ⟨right, rfl, taken⟩]

end Clause

namespace Connective

theorem ofToken?_eq_some_iff {t : Token} {connective : Connective} :
    ofToken? t = some connective ↔ t.lexeme.isKeyword connective.keyword = true := by
  constructor
  · intro h
    unfold ofToken? at h
    split at h
    · next keyword => cases h; exact keyword
    · split at h
      · next keyword => cases h; exact keyword
      · cases h
  · intro keyword
    obtain ⟨s, word, upper⟩ := Lexeme.isKeyword_eq_true_iff.mp keyword
    cases connective <;> simp [ofToken?, word, Lexeme.isKeyword, upper, Connective.keyword]

theorem ofToken?_eq_none_iff {t : Token} :
    ofToken? t = none ↔
      ∀ connective : Connective, t.lexeme.isKeyword connective.keyword = false := by
  simp only [Option.eq_none_iff_forall_ne_some, ne_eq, ofToken?_eq_some_iff,
    Bool.not_eq_true]

end Connective

/-- Taking a connective, if there is one, and then a clause reads an item. -/
theorem Item.exists_spelled_of_read {schema : Schema} {current : Connective}
    {before : Option Token} {tokens rest : List Token} {c : Clause}
    (h : Clause.read schema before (current.read tokens).2 = .ok (c, rest)) :
    ∃ used item, tokens = used ++ rest ∧ Spelled schema item (used.map Token.lexeme) ∧
      item.clause = c ∧ item.written.getD current = (current.read tokens).1 := by
  cases tokens with
  | nil => cases h
  | cons t tail =>
    unfold Connective.read at h ⊢
    cases token : Connective.ofToken? t with
    | some connective =>
      simp only [token] at h ⊢
      obtain ⟨used, rfl, said⟩ := Clause.read_eq_ok_iff.mp h
      have keyword := Connective.ofToken?_eq_some_iff.mp token
      exact ⟨t :: used, ⟨some connective, c⟩, rfl, .joined keyword said, rfl, rfl⟩
    | none =>
      simp only [token] at h ⊢
      obtain ⟨used, same, said⟩ := Clause.read_eq_ok_iff.mp h
      cases used with
      | nil => cases said
      | cons first used =>
        obtain ⟨rfl, rfl⟩ := List.cons.inj same
        have noKeyword := Connective.ofToken?_eq_none_iff.mp token
        exact ⟨t :: used, ⟨none, c⟩, rfl, .plain noKeyword said, rfl, rfl⟩

/-- An item is read whatever follows it, and leaves its connective in force. -/
theorem Item.Spelled.read {schema : Schema} {item : Item} {used : List Token}
    (h : item.Spelled schema (used.map Token.lexeme)) (current : Connective)
    (before : Option Token) (rest : List Token) :
    (current.read (used ++ rest)).1 = item.written.getD current ∧
      Clause.read schema before (current.read (used ++ rest)).2 = .ok (item.clause, rest) := by
  generalize lexemes : used.map Token.lexeme = row at h
  cases h with
  | joined keyword said =>
    obtain ⟨t, used, rfl, rfl, rfl⟩ := List.map_eq_cons_iff.mp lexemes
    simp only [List.cons_append, Connective.read, Connective.ofToken?_eq_some_iff.mpr keyword]
    exact ⟨rfl, Clause.read_eq_ok_iff.mpr ⟨used, rfl, said⟩⟩
  | plain noKeyword said =>
    obtain ⟨t, used, rfl, rfl, rfl⟩ := List.map_eq_cons_iff.mp lexemes
    simp only [List.cons_append, Connective.read,
      Connective.ofToken?_eq_none_iff.mpr noKeyword]
    exact ⟨rfl, Clause.read_eq_ok_iff.mpr ⟨t :: used, rfl, said⟩⟩

namespace Expression

/-- A row of tokens that is not empty is read as an item and then the rest of the row, with
the connective of the item in force. -/
theorem readRest_eq_ok_iff_of_ne_nil {schema : Schema} {current : Connective}
    {tokens : List Token} {items : List (Connective × Clause)} (nonempty : tokens ≠ []) :
    readRest schema current tokens = .ok items ↔
      ∃ clause rest more,
        Clause.read schema tokens.head? (current.read tokens).2 = .ok (clause, rest) ∧
        readRest schema (current.read tokens).1 rest = .ok more ∧
        items = ((current.read tokens).1, clause) :: more := by
  have notEmpty : ¬ tokens.isEmpty = true := by simpa using nonempty
  rw [readRest, if_neg notEmpty]
  constructor
  · intro h
    split at h
    · cases h
    · next clause rest read =>
      dsimp only at h
      split at h
      · cases h
      · next more later =>
        cases h
        exact ⟨clause, rest, more, read, later, rfl⟩
  · rintro ⟨clause, rest, more, read, later, rfl⟩
    split
    · next failed => rw [read] at failed; cases failed
    · next same =>
      rw [read] at same
      cases same
      simp only [later]

/-- The clauses after the first are read exactly from the rows that say items. -/
theorem readRest_eq_ok_iff {schema : Schema} {current : Connective} {tokens : List Token}
    {items : List (Connective × Clause)} :
    readRest schema current tokens = .ok items ↔
      ∃ row, Item.RowSpelled schema row (tokens.map Token.lexeme) ∧
        Item.connected current row = items := by
  constructor
  · intro h
    -- a clause takes at least one token, so what is left is shorter
    induction size : tokens.length using Nat.strongRecOn generalizing current tokens items with
    | ind size ih =>
      subst size
      by_cases empty : tokens = []
      · subst empty
        rw [readRest] at h
        cases h
        exact ⟨[], .nil, rfl⟩
      · obtain ⟨clause, rest, more, read, later, rfl⟩ :=
          (readRest_eq_ok_iff_of_ne_nil empty).mp h
        have shorter : rest.length < tokens.length :=
          Nat.lt_of_lt_of_le (Clause.length_rest_lt read) (current.length_read_le tokens)
        obtain ⟨row, said, connected⟩ := ih rest.length shorter later rfl
        obtain ⟨used, item, same, spelled, rfl, inForce⟩ := Item.exists_spelled_of_read read
        refine ⟨item :: row, ?_, ?_⟩
        · rw [same, List.map_append]
          exact .cons spelled said
        · rw [Item.connected, inForce, connected]
  · rintro ⟨row, said, rfl⟩
    generalize lexemes : tokens.map Token.lexeme = all at said
    induction said generalizing current tokens with
    | nil =>
      rw [List.map_eq_nil_iff.mp lexemes, readRest]
      rfl
    | @cons item row front more spelled said ih =>
      obtain ⟨used, rest, rfl, rfl, rfl⟩ := List.map_eq_append_iff.mp lexemes
      have nonempty : used ++ rest ≠ [] := by
        intro empty
        rw [(List.append_eq_nil_iff.mp empty).1] at spelled
        cases spelled
      obtain ⟨inForce, read⟩ := spelled.read current (used ++ rest).head? rest
      rw [readRest_eq_ok_iff_of_ne_nil nonempty, inForce]
      exact ⟨item.clause, rest, _, read, ih rfl, rfl⟩

/-- The expressions that are read are those of the sentences that the tokens say. -/
theorem read_eq_ok_iff {schema : Schema} {tokens : List Token} {e : Expression} :
    read schema tokens = .ok (some e) ↔
      ∃ s : Sentence, s.Spelled schema (tokens.map Token.lexeme) ∧ s.toExpression = e := by
  constructor
  · intro h
    unfold read at h
    split at h
    · cases h
    · split at h
      · cases h
      · next first rest firstRead =>
        cases restRead : readRest schema .and rest with
        | error d => rw [restRead] at h; cases h
        | ok items =>
          rw [restRead] at h
          cases h
          obtain ⟨used, rfl, said⟩ := Clause.read_eq_ok_iff.mp firstRead
          obtain ⟨row, later, rfl⟩ := readRest_eq_ok_iff.mp restRead
          refine ⟨⟨first, row⟩, ?_, rfl⟩
          rw [List.map_append]
          exact .intro said later
  · rintro ⟨s, said, rfl⟩
    generalize lexemes : tokens.map Token.lexeme = all at said
    obtain ⟨said, later⟩ := said
    obtain ⟨used, rest, rfl, rfl, rfl⟩ := List.map_eq_append_iff.mp lexemes
    have firstRead : Clause.read schema none (used ++ rest) = .ok (_, rest) :=
      Clause.read_eq_ok_iff.mpr ⟨used, rfl, said⟩
    have restRead : readRest schema .and rest = .ok _ :=
      readRest_eq_ok_iff.mpr ⟨_, later, rfl⟩
    have nonempty : ¬ (used ++ rest).isEmpty = true := by
      intro empty
      rw [List.isEmpty_iff.mp empty] at firstRead
      cases firstRead
    rw [read, if_neg nonempty, firstRead]
    simp only [restRead]
    rfl

/-- Only the row without tokens says nothing. -/
theorem read_eq_ok_none_iff {schema : Schema} {tokens : List Token} :
    read schema tokens = .ok none ↔ tokens = [] := by
  constructor
  · intro h
    unfold read at h
    split at h
    · next empty => exact List.isEmpty_iff.mp empty
    · split at h
      · cases h
      · next rest _ =>
        cases restRead : readRest schema .and rest <;> rw [restRead] at h <;> cases h
  · rintro rfl
    rfl

end Expression

/-- The condition of a sentence is the left fold of the conditions of its clauses. -/
theorem Sentence.toCondition_toExpression (s : Sentence) :
    s.toExpression.toCondition =
      (Item.connected .and s.items).foldl
        (fun tree item => match item.1 with
          | .and => .all [tree, item.2.toCondition]
          | .or => .any [tree, item.2.toCondition])
        s.first.toCondition := by
  unfold Expression.toCondition Sentence.toExpression
  congr 1
  funext tree item
  cases item.1 <;> rfl

theorem parseTokens_eq_ok_iff_read {schema : Schema} {tokens : List Token} {c : Condition} :
    parseTokens schema tokens = .ok c ↔
      (Expression.read schema tokens = .ok none ∧ c = .always) ∨
      ∃ e, Expression.read schema tokens = .ok (some e) ∧ c = e.toCondition := by
  unfold parseTokens
  cases Expression.read schema tokens with
  | error d => simp
  | ok outcome => cases outcome <;> simp [eq_comm]

/-- A text is accepted exactly if it has no tokens or says a sentence. -/
theorem parse_eq_ok_iff_ofText {schema : Schema} {text : String} {c : Condition} :
    parse schema text = .ok c ↔
      (tokenize text = .ok [] ∧ c = .always) ∨
      ∃ s : Sentence, s.OfText schema text ∧ c = s.toExpression.toCondition := by
  unfold parse
  cases scanned : tokenize text with
  | error e => simp [Sentence.OfText, scanned]
  | ok tokens =>
    simp only [parseTokens_eq_ok_iff_read, Expression.read_eq_ok_none_iff,
      Expression.read_eq_ok_iff, Sentence.OfText, scanned, Except.ok.injEq]
    refine or_congr_right ?_
    constructor
    · rintro ⟨_, ⟨s, said, rfl⟩, rfl⟩
      exact ⟨s, ⟨tokens, rfl, said⟩, rfl⟩
    · rintro ⟨s, ⟨_, rfl, said⟩, rfl⟩
      exact ⟨s.toExpression, ⟨s, said, rfl⟩, rfl⟩

/-- A text says one expression. -/
theorem Sentence.OfText.toExpression_unique {schema : Schema} {text : String} {s other : Sentence}
    (said : s.OfText schema text) (otherSaid : other.OfText schema text) :
    s.toExpression = other.toExpression := by
  obtain ⟨tokens, scanned, spelled⟩ := said
  obtain ⟨sameTokens, scannedAgain, otherSpelled⟩ := otherSaid
  rw [scanned] at scannedAgain
  cases scannedAgain
  have read := Expression.read_eq_ok_iff.mpr ⟨s, spelled, rfl⟩
  rw [Expression.read_eq_ok_iff.mpr ⟨other, otherSpelled, rfl⟩] at read
  exact (Option.some.inj (Except.ok.inj read)).symm

/-- A text whose tokens are read as an expression says a sentence with that expression. -/
theorem Sentence.exists_ofText_of_read (schema : Schema) (text : String) (e : Expression)
    (read : ((tokenize text).toOption.bind fun tokens =>
      (Expression.read schema tokens).toOption.join) = some e) :
    ∃ s : Sentence, s.OfText schema text ∧ s.toExpression = e := by
  cases scanned : tokenize text with
  | error e => rw [scanned] at read; cases read
  | ok tokens =>
    rw [scanned] at read
    change (Expression.read schema tokens).toOption.join = some e at read
    cases outcome : Expression.read schema tokens with
    | error d => rw [outcome] at read; cases read
    | ok found =>
      rw [outcome] at read
      change found = some e at read
      subst read
      obtain ⟨s, said, same⟩ := Expression.read_eq_ok_iff.mp outcome
      exact ⟨s, ⟨tokens, scanned, said⟩, same⟩

/-- A text whose tokens are read as an expression is parsed as its condition. -/
theorem parse_eq_ok_of_read (schema : Schema) (text : String) (e : Expression)
    (read : ((tokenize text).toOption.bind fun tokens =>
      (Expression.read schema tokens).toOption.join) = some e) :
    parse schema text = .ok e.toCondition := by
  obtain ⟨s, said, rfl⟩ := Sentence.exists_ofText_of_read schema text e read
  exact parse_eq_ok_iff_ofText.mpr (.inr ⟨s, said, rfl⟩)

/-- A clause on `_` stands for its bare comparison, and a clause on a field for a constraint on
that field alone. -/
theorem Clause.Spelled.toCondition_eq {schema : Schema} {clause : Clause} {lexemes : List Lexeme}
    (said : clause.Spelled schema lexemes) :
    ∃ name, lexemes.head? = some (.word name) ∧
      clause.toCondition =
        if name = "_" then .comparison clause.comparison
        else .fields [(name, .comparison clause.comparison)] := by
  obtain ⟨named, _, _⟩ := said
  cases named with
  | record => exact ⟨"_", rfl, rfl⟩
  | @field name _ _ other => exact ⟨name, rfl, (if_neg other).symm⟩

/-- A row of tokens is accepted exactly if it is empty or says a sentence. Its condition is
then the left fold of the conditions of its clauses, where each clause is joined to all
before it by the connective in force. -/
theorem parseTokens_eq_ok_iff (schema : Schema) (tokens : List Token) (c : Condition) :
    parseTokens schema tokens = .ok c ↔
      (tokens = [] ∧ c = .always) ∨
      ∃ s : Sentence, s.Spelled schema (tokens.map Token.lexeme) ∧
        c = (Item.connected .and s.items).foldl
          (fun tree item => match item.1 with
            | .and => .all [tree, item.2.toCondition]
            | .or => .any [tree, item.2.toCondition])
          s.first.toCondition := by
  rw [parseTokens_eq_ok_iff_read, Expression.read_eq_ok_none_iff]
  refine or_congr_right ?_
  constructor
  · rintro ⟨e, read, rfl⟩
    obtain ⟨s, said, rfl⟩ := Expression.read_eq_ok_iff.mp read
    exact ⟨s, said, s.toCondition_toExpression⟩
  · rintro ⟨s, said, rfl⟩
    exact ⟨s.toExpression, Expression.read_eq_ok_iff.mpr ⟨s, said, rfl⟩,
      s.toCondition_toExpression.symm⟩

end RecordFilter
