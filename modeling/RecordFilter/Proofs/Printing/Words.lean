import RecordFilter.Proofs.Binary.ReadBack
import RecordFilter.Proofs.Expression.Trees
import RecordFilter.Proofs.Printing.Failures
import RecordFilter.Proofs.Token.Front
import RecordFilter.Text.Quoted

/-!
# Printed clauses as words

A clause is printed as words with single blanks between them, and each of its words is a token
again. A value becomes a literal of the same kind for the same value, where a number keeps a
point exactly if it needs one to be taken for what it is, and texts are quoted so that every
character of theirs stands for itself. What has no such literal are infinities and, since
lists are printed between brackets, lists.

## Main definitions

* `Value.IsInfinite`: the values without a literal
* `Lexeme.RowSpelled`: tokens that are spelled one by one with blanks between them
* `Clause.print`: the text of a clause

## Main results

* `Lexeme.Literal.exists_printed`: a printed value is a literal for the value
* `Lexeme.RowSpelled.exists_tokenize`: words are read as their tokens
* `Clause.Written.exists_rowSpelled`: a printed clause is said by its words
-/

namespace RecordFilter

open Dialect (expression)

/-! ### Quoted texts -/

namespace Lexeme

/-- With its marks and backslashes escaped, a text spells itself. -/
theorem quoted_escapeMarks (cs : List Char) : Quoted cs (Text.escapeMarks cs) := by
  induction cs with
  | nil => exact .nil
  | cons c rest ih =>
    unfold Text.escapeMarks
    split
    · exact .escaped c ih
    · next plain =>
      obtain ⟨noMark, noEscape⟩ := not_or.mp plain
      exact .plain noMark noEscape ih

theorem spelled_quoteEscaped (s : String) :
    (Lexeme.text s).Spelled (Text.quoteEscaped s).toList := by
  have spelled := Spelled.text (quoted_escapeMarks s.toList)
  rw [String.ofList_toList] at spelled
  rw [Text.quoteEscaped, String.toList_ofList]
  exact spelled

/-- A word of letters is spelled by them. -/
theorem spelled_word {s : String} (nonempty : s.toList ≠ [])
    (letters : s.toList.all Char.isAlpha = true) : (Lexeme.word s).Spelled s.toList := by
  obtain ⟨c, more, shape⟩ := List.exists_cons_of_ne_nil nonempty
  have same : s = String.ofList (c :: more) := by rw [← shape, String.ofList_toList]
  rw [shape, List.all_cons, Bool.and_eq_true, List.all_eq_true] at letters
  rw [same, String.toList_ofList]
  refine .word (.inl letters.1) fun d member => .inl ?_
  rw [Char.isAlphanum, letters.2 d member, Bool.true_or]

/-- A numeral is spelled by its characters. -/
theorem spelled_number {n : Numeral} {s : String} (spelled : n.Spelled s.toList) :
    (Lexeme.number s).Spelled s.toList := by
  have whole := Spelled.number spelled
  rwa [String.ofList_toList] at whole

end Lexeme

/-! ### Values -/

/-- The value is an infinity. -/
def Value.IsInfinite : Value → Prop
  | single x => x.magnitude = Binary.Format.single.infinity
  | double x => x.magnitude = Binary.Format.double.infinity
  | _ => False

instance : (v : Value) → Decidable v.IsInfinite
  | .single x => inferInstanceAs (Decidable (x.magnitude = _))
  | .double x => inferInstanceAs (Decidable (x.magnitude = _))
  | .int .. | .bool _ | .text _ => inferInstanceAs (Decidable False)

/-- A numeral denotes no value that is not a number. -/
theorem Binary.isFinite_ofNumeral {F : Binary.Format} {n : Numeral}
    (finite : (ofNumeral F n).magnitude ≠ F.infinity) : (ofNumeral F n).isFinite = true :=
  decide_eq_true (lt_of_le_of_ne (nearestMagnitude_le F _) finite)

/-- A printed finite number is a token with a point that denotes the number. -/
theorem exists_printed_number {F : Binary.Format} {x : Binary F} (precise : 0 < F.precision)
    (finite : x.isFinite = true) :
    ∃ (text : String) (n : Numeral), expression.number x = .ok text ∧ n.Spelled text.toList ∧
      '.' ∈ text.toList ∧ .ofNumeral F n = x := by
  obtain ⟨n, spelled, point, same⟩ := Binary.exists_ofNumeral_eq precise finite
  refine ⟨String.ofList (Dialect.withPoint x.text), n, ?_, ?_⟩
  · simp only [expression, finite, if_true]
  · rw [String.toList_ofList]
    exact ⟨spelled, spelled.mem_point_iff.mpr point, same⟩

/-- A value that comes from a literal, unless it is infinite, is printed as a literal of its
kind. Where the spelling of a literal decides its kind, it does so after printing. -/
theorem Kind.Literal.exists_printed {kind : Kind} {l : Lexeme} {v : Value}
    (literal : kind.Literal l v) (finite : ¬ v.IsInfinite) :
    ∃ (text : String) (printed : Lexeme), expression.value v = .ok text ∧
      printed.Spelled text.toList ∧ kind.Literal printed v ∧
      (l.KindBySpelling kind → printed.KindBySpelling kind) := by
  cases literal with
  | @int k _ _ i _ _ _ inRange =>
    have spelled := Numeral.spelled_ofInt i
    have plain : '.' ∉ (toString i).toList := by
      rw [spelled.mem_point_iff]
      exact Bool.false_ne_true
    have unsigned (noSign : k.signed = Bool.false) : (Numeral.ofInt i).negative = Bool.false :=
      decide_eq_false (not_lt.mpr (IntKind.nonneg_of_contains noSign inRange))
    refine ⟨toString i, .number (toString i), rfl, Lexeme.spelled_number spelled,
      .int spelled unsigned (Numeral.toInt?_ofInt i) inRange, ?_⟩
    rintro ⟨⟩
    exact .integer plain
  | @single _ n _ =>
    obtain ⟨text, m, printed, spelled, -, same⟩ :=
      exists_printed_number (by decide) (Binary.isFinite_ofNumeral finite)
    rw [← same]
    rw [← same] at printed
    refine ⟨text, .number text, printed, Lexeme.spelled_number spelled, .single spelled, ?_⟩
    rintro ⟨⟩
  | @double _ n _ =>
    obtain ⟨text, m, printed, spelled, point, same⟩ :=
      exists_printed_number (by decide) (Binary.isFinite_ofNumeral finite)
    rw [← same]
    rw [← same] at printed
    refine ⟨text, .number text, printed, Lexeme.spelled_number spelled, .double spelled, ?_⟩
    exact fun _ => .double point
  | true =>
    exact ⟨"true", .word "true", rfl, Lexeme.spelled_word (by decide) rfl,
      .true (by decide +kernel), fun _ => .bool _⟩
  | false =>
    exact ⟨"false", .word "false", rfl, Lexeme.spelled_word (by decide) rfl,
      .false (by decide +kernel), fun _ => .bool _⟩
  | text s =>
    exact ⟨_, .text s, rfl, Lexeme.spelled_quoteEscaped s, .text s, fun _ => .text s⟩

/-- A value that comes from a literal, unless it is infinite, is printed as a literal for the
same value, whether the kind is known or not. -/
theorem Lexeme.Literal.exists_printed {kind : Option Kind} {l : Lexeme} {v : Value}
    (literal : l.Literal kind v) (finite : ¬ v.IsInfinite) :
    ∃ (text : String) (printed : Lexeme), expression.value v = .ok text ∧
      printed.Spelled text.toList ∧ printed.Literal kind v := by
  cases kind with
  | some kind =>
    obtain ⟨text, printed, shown, spelled, again, -⟩ := Kind.Literal.exists_printed literal finite
    exact ⟨text, printed, shown, spelled, again⟩
  | none =>
    obtain ⟨kind, spelling, literal⟩ := literal
    obtain ⟨text, printed, shown, spelled, again, keeps⟩ := literal.exists_printed finite
    exact ⟨text, printed, shown, spelled, kind, keeps spelling, again⟩

/-! ### Rows of words -/

namespace Lexeme

/-- The characters are the spellings of the tokens, with single blanks between them. -/
inductive RowSpelled : List Lexeme → List Char → Prop
  | single {l : Lexeme} {cs : List Char} (spelled : l.Spelled cs) : RowSpelled [l] cs
  | append {ls more : List Lexeme} {cs ds : List Char} (front : RowSpelled ls cs)
      (back : RowSpelled more ds) : RowSpelled (ls ++ more) (cs ++ ' ' :: ds)

/-- The characters are at an end, or begin with one that continues no token. -/
def IsBoundary (rest : List Char) : Prop := ∀ c ∈ rest.head?, c ∈ [' ', '(', ')', ']']

theorem ends_of_isBoundary {l : Lexeme} {rest : List Char} (boundary : IsBoundary rest) :
    l.Ends rest := by
  have apart {c : Char} (mark : c ∈ [' ', '(', ')', ']']) : c.isAlphanum = false ∧ c ≠ '_' ∧
      c ∉ comparisonChars ∧ c.isDigit = false ∧ c ≠ '.' := by
    simp only [List.mem_cons, List.not_mem_nil, or_false] at mark
    rcases mark with rfl | rfl | rfl | rfl <;> decide
  cases l with
  | opening | closing | text => trivial
  | word s =>
    intro c first
    obtain ⟨noLetter, noLine, -⟩ := apart (boundary c first)
    exact ⟨noLetter, noLine⟩
  | symbol s =>
    intro c first
    obtain ⟨-, -, noComparison, -⟩ := apart (boundary c first)
    exact noComparison
  | number s =>
    refine ⟨?_, ?_⟩
    · intro c first
      obtain ⟨-, -, -, noDigit, -⟩ := apart (boundary c first)
      exact noDigit
    · rintro - c more rfl
      obtain ⟨-, -, -, -, noPoint⟩ := apart (boundary '.' rfl)
      exact absurd rfl noPoint

theorem isBoundary_nil : IsBoundary [] := by simp [IsBoundary]

theorem isBoundary_cons {c : Char} {rest : List Char} (among : c ∈ [' ', '(', ')', ']']) :
    IsBoundary (c :: rest) := by
  intro d first
  rw [← Option.some.inj first]
  exact among

/-- Words that spell tokens, up to a boundary, are tokens in front of what follows. -/
theorem RowSpelled.begins {words front : List Lexeme} {cs rest back : List Char}
    (row : RowSpelled words cs) (boundary : IsBoundary rest)
    (later : Token.Begins back rest front) : Token.Begins back (cs ++ rest) (words ++ front) := by
  induction row generalizing rest front with
  | single spelled => exact later.cons spelled (ends_of_isBoundary boundary)
  | @append words others cs ds _ _ ihFront ihBack =>
    have spaced := (ihBack boundary later).cons_gap (c := ' ') (by decide)
    rw [List.append_assoc, List.append_assoc, List.cons_append]
    exact ihFront (isBoundary_cons (by decide)) spaced

/-- Words are read as their tokens. -/
theorem RowSpelled.exists_tokenize {ls : List Lexeme} {text : String}
    (row : RowSpelled ls text.toList) :
    ∃ tokens, tokenize text = .ok tokens ∧ tokens.map Token.lexeme = ls := by
  have begins := row.begins isBoundary_nil (Token.begins_nil "".toList)
  rw [List.append_nil, List.append_nil] at begins
  have empty : tokenize "" = .ok [] := Token.Decomposes.tokenize_eq_ok (.done Token.isGap_nil)
  refine (begins.tokenize_iff ls).mpr ⟨[], empty, ?_⟩
  rw [List.map_nil, List.append_nil]

end Lexeme

/-! ### Clauses -/

/-- The symbol of an operator is words that spell the operator. -/
theorem Operator.exists_rowSpelled (op : Operator) :
    ∃ words, op.Spelled words ∧ Lexeme.RowSpelled words op.symbol.toList := by
  have symbol (scalar : op.isScalar = true) (nonempty : op.symbol.toList ≠ [])
      (comparisons : op.symbol.toList.all Lexeme.isComparison = true) :
      ∃ words, op.Spelled words ∧ Lexeme.RowSpelled words op.symbol.toList := by
    have spelled := Lexeme.Spelled.symbol nonempty fun c member =>
      Lexeme.isComparison_iff.mp (List.all_eq_true.mp comparisons c member)
    rw [String.ofList_toList] at spelled
    exact ⟨_, .symbol scalar, .single spelled⟩
  have keyword (s : String) (nonempty : s.toList ≠ [])
      (letters : s.toList.all Char.isAlpha = true) : Lexeme.RowSpelled [.word s] s.toList :=
    .single (Lexeme.spelled_word nonempty letters)
  cases op with
  | lt | le | gt | ge | eq | ne => exact symbol (by decide) (by decide) rfl
  | isIn => exact ⟨_, .isIn (by decide +kernel), keyword "IN" (by decide) rfl⟩
  | isMatch => exact ⟨_, .isMatch (by decide +kernel), keyword "MATCH" (by decide) rfl⟩
  | notIn =>
    exact ⟨_, .notIn (by decide +kernel) (by decide +kernel),
      .append (keyword "NOT" (by decide) rfl) (keyword "IN" (by decide) rfl)⟩
  | notMatch =>
    exact ⟨_, .notMatch (by decide +kernel) (by decide +kernel),
      .append (keyword "NOT" (by decide) rfl) (keyword "MATCH" (by decide) rfl)⟩

/-- A right-hand side, unless it is a list or infinite, is printed as a single token that says
it again. -/
theorem Operand.Spelled.exists_printed {kind : Option Kind} {op : Operator} {operand : Operand}
    {right : List Lexeme} (taken : operand.Spelled kind op right)
    (noList : op.isMembership = false)
    (finite : ∀ v, operand = .value v → ¬ v.IsInfinite) :
    ∃ (text : String) (printed : Lexeme), expression.operand operand = .ok text ∧
      printed.Spelled text.toList ∧ operand.Spelled kind op [printed] := by
  cases taken with
  | value scalar literal ordered =>
    obtain ⟨text, printed, shown, spelled, again⟩ := literal.exists_printed (finite _ rfl)
    exact ⟨text, printed, shown, spelled, .value scalar again ordered⟩
  | list membership =>
    rw [membership] at noList
    cases noList
  | @pattern source search searchable =>
    exact ⟨_, .text source, rfl, Lexeme.spelled_quoteEscaped source, .pattern search searchable⟩

/-- A target is named by the word that stands for it when it is printed. -/
theorem Target.Named.eq_word {schema : Schema} {target : Target} {l : Lexeme}
    (named : target.Named schema l) :
    l = .word (target.name?.getD recordName) := by
  cases named <;> rfl

/-- A word is spelled as it is. -/
theorem Lexeme.Spelled.eq_toList {s : String} {cs : List Char}
    (spelled : (Lexeme.word s).Spelled cs) : cs = s.toList := by
  cases spelled
  rw [String.toList_ofList]

namespace Clause

/-- The text of a clause. -/
def print (c : Clause) : Except PrintError String :=
  expression.comparison c.target.name? c.comparison

/-- In expressions every value has a text. -/
theorem exists_print (c : Clause) : ∃ text, c.print = .ok text := by
  have reports := reports_comparison reports_expression_value c.target.name? c.comparison
  rwa [List.findSome?_eq_none_iff.mpr fun _ _ => rfl] at reports

/-- A written clause, unless it has a list or an infinity, is printed as words that say it. -/
theorem Written.exists_rowSpelled {schema : Schema} {c : Clause} (written : c.Written schema)
    (noList : c.comparison.op.isMembership = false)
    (finite : ∀ v, c.comparison.operand = .value v → ¬ v.IsInfinite) :
    ∃ text lexemes, c.print = .ok text ∧ c.Spelled schema lexemes ∧
      Lexeme.RowSpelled lexemes text.toList := by
  obtain ⟨lexemes, said, sourced⟩ := written
  obtain @⟨target, op, operand, name, words, right, named, -, taken⟩ := said
  obtain rfl := named.eq_word
  obtain ⟨source, spelledName⟩ := sourced _ List.mem_cons_self
  obtain rfl := spelledName.eq_toList
  obtain ⟨symbol, operator, spelledSymbol⟩ := op.exists_rowSpelled
  obtain ⟨text, printed, shown, spelledRight, again⟩ := taken.exists_printed noList finite
  refine ⟨target.name?.getD recordName ++ " " ++ op.symbol ++ " " ++ text, _, ?_,
    .intro named operator again, ?_⟩
  · rw [print, Dialect.comparison, shown]
    rfl
  · have row := Lexeme.RowSpelled.append (.single spelledName)
      (.append spelledSymbol (.single spelledRight))
    simpa [String.toList_append] using row

/-- A clause is printed as a single comparison. A constraint on a field is a conjunction of
its own, so it is in parentheses inside of a disjunction. -/
theorem fragments_toCondition {c : Clause} {text : String} (printed : c.print = .ok text)
    (inside : Surrounding) :
    c.toCondition.fragments expression none inside =
      .ok (if inside = .disj ∧ c.target ≠ .record then Fragment.enclose [.atom text]
        else [.atom text]) := by
  obtain ⟨target, comparison⟩ := c
  cases target with
  | record =>
    have shown : expression.comparison none comparison = .ok text := printed
    rw [toCondition, Condition.fragments, shown, if_neg (by simp)]
    rfl
  | field name kind =>
    have shown : expression.comparison (some name) comparison = .ok text := printed
    simp only [toCondition, Condition.onField, Condition.fragments, Condition.constraintFragments,
      shown]
    cases inside <;> rfl

end Clause

end RecordFilter
