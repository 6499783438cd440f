import RecordFilter.Proofs.Printing.Meaning
import RecordFilter.Proofs.Printing.Words

/-!
# Printed clauses are told apart

Where the text of a clause stands in front of other characters, it shows where it ends and
which clause it is. The name of a field ends at a blank and says which kind of values to
expect, an operator is told from the others by its symbol and the blank behind it, and a
value is told by reading it again. Infinities are no literals, but their text is neither a
literal nor the beginning of one. Lists end at a bracket, which no value begins with.

## Main definitions

* `Value.reread?`: the value that characters begin with
* `Value.RowShown`: the characters of a list behind its bracket

## Main results

* `Value.reread?_of_printed`: a printed value is read again
* `Operand.Spelled.eq_of_printed`: right-hand sides are told apart
* `Clause.Written.eq_of_printed`: written clauses are told apart
-/

namespace RecordFilter

open Dialect (expression)
open Lexeme (IsBoundary)

/-! ### Values -/

namespace Value

/-- The infinity of a kind, which has double precision unless the kind says otherwise. -/
def infinity (kind : Option Kind) (negative : Bool) : Value :=
  if kind = some .single then .single ⟨negative, Binary.Format.single.infinity, by decide⟩
  else .double ⟨negative, Binary.Format.double.infinity, by decide⟩

/-- The value that characters begin with, and the characters behind it. Where no token begins
there is a minus sign in front of the text of infinity. -/
def reread? (kind : Option Kind) (cs : List Char) : Option (Value × List Char) :=
  match Lexeme.read? cs with
  | none => some (infinity kind true, cs.drop 4)
  | some r =>
    if r.lexeme = .word "inf" then some (infinity kind false, r.rest)
    else (literal? kind r.lexeme).map fun v => (v, r.rest)

variable {kind : Option Kind} {l other : Lexeme} {v w : Value} {text otherText : String}
  {rest otherRest : List Char}

theorem eq_infinity_of_literal (literal : l.Literal kind v) (infinite : v.IsInfinite) :
    ∃ negative, v = infinity kind negative := by
  -- without a kind the spelling of a number never asks for single precision
  have known : ∃ k : Kind, k.Literal l v ∧ (kind = some .single ↔ k = .single) := by
    cases kind with
    | some k => exact ⟨k, literal, by simp⟩
    | none =>
      obtain ⟨k, spelling, literal⟩ := literal
      refine ⟨k, literal, ?_⟩
      cases spelling <;> simp
  obtain ⟨k, literal, single⟩ := known
  cases literal with
  | int | true | false | text => cases infinite
  | @single _ n =>
    generalize Binary.ofNumeral Binary.Format.single n = x at infinite
    obtain ⟨negative, magnitude, bound⟩ := x
    cases infinite
    refine ⟨negative, ?_⟩
    rw [infinity, if_pos (single.mpr rfl)]
    rfl
  | @double _ n =>
    generalize Binary.ofNumeral Binary.Format.double n = x at infinite
    obtain ⟨negative, magnitude, bound⟩ := x
    cases infinite
    refine ⟨negative, ?_⟩
    rw [infinity, if_neg fun isSingle => nomatch single.mp isSingle]
    rfl

theorem value_infinity (kind : Option Kind) (negative : Bool) :
    expression.value (infinity kind negative) = .ok (if negative then "-inf" else "inf") := by
  unfold infinity
  split <;> cases negative <;> rfl

theorem read?_inf (boundary : IsBoundary rest) :
    Lexeme.read? ("inf".toList ++ rest) = some ⟨.word "inf", "inf".toList, rest⟩ := by
  have spelled : (Lexeme.word "inf").Spelled "inf".toList :=
    Lexeme.spelled_word (by decide) rfl
  exact Lexeme.read?_eq_some_iff.mpr ⟨rfl, spelled, Lexeme.ends_of_isBoundary boundary⟩

theorem read?_neg_inf : Lexeme.read? ("-inf".toList ++ rest) = none := by
  refine Lexeme.read?_eq_none_iff.mpr (.inr (.inl ⟨.inr rfl, ?_⟩))
  intro d first
  obtain rfl : 'i' = d := Option.some.inj first
  decide

/-- The text of infinity is a word, but no truth value. -/
theorem not_literal_inf : ¬ (Lexeme.word "inf").Literal kind v := by
  have noTruth : "inf".toLower ≠ "true" ∧ "inf".toLower ≠ "false" := by decide +kernel
  intro literal
  have known : ∃ k : Kind, k.Literal (.word "inf") v := by
    cases kind with
    | some k => exact ⟨k, literal⟩
    | none =>
      obtain ⟨k, -, literal⟩ := literal
      exact ⟨k, literal⟩
  obtain ⟨k, literal⟩ := known
  cases literal with
  | true spelled => exact noTruth.1 spelled
  | false spelled => exact noTruth.2 spelled

/-- A printed value is read again, wherever it ends. -/
theorem reread?_of_printed (literal : l.Literal kind v) (printed : expression.value v = .ok text)
    (boundary : IsBoundary rest) : reread? kind (text.toList ++ rest) = some (v, rest) := by
  by_cases infinite : v.IsInfinite
  · obtain ⟨negative, rfl⟩ := eq_infinity_of_literal literal infinite
    rw [value_infinity] at printed
    cases negative with
    | true =>
      cases printed
      rw [reread?, if_pos rfl, read?_neg_inf]
      rfl
    | false =>
      cases printed
      rw [reread?, if_neg Bool.false_ne_true, read?_inf boundary]
      rfl
  · obtain ⟨shown, again, same, spelled, literalAgain⟩ := literal.exists_printed infinite
    rw [printed] at same
    cases same
    have read : Lexeme.read? (text.toList ++ rest) = some ⟨again, text.toList, rest⟩ :=
      Lexeme.read?_eq_some_iff.mpr ⟨rfl, spelled, Lexeme.ends_of_isBoundary boundary⟩
    have noInfinity : again ≠ .word "inf" := by
      rintro rfl
      exact not_literal_inf literalAgain
    rw [reread?, read]
    dsimp only
    rw [if_neg noInfinity, literal?_eq_some_iff.mpr literalAgain]
    rfl

/-- Printed values are told apart, wherever they end. -/
theorem eq_of_printed (literal : l.Literal kind v) (printed : expression.value v = .ok text)
    (boundary : IsBoundary rest) (otherLiteral : other.Literal kind w)
    (otherPrinted : expression.value w = .ok otherText) (otherBoundary : IsBoundary otherRest)
    (same : text.toList ++ rest = otherText.toList ++ otherRest) : v = w ∧ rest = otherRest := by
  have read := reread?_of_printed literal printed boundary
  rw [same, reread?_of_printed otherLiteral otherPrinted otherBoundary] at read
  cases read
  exact ⟨rfl, rfl⟩

/-! ### Lists -/

/-- The characters are the texts of the values with blanks between them, up to the closing
bracket of their list. -/
inductive RowShown (kind : Option Kind) : List Value → List Char → Prop
  | last {l : Lexeme} {v : Value} {text : String} (literal : l.Literal kind v)
      (printed : expression.value v = .ok text) : RowShown kind [v] (text.toList ++ [']'])
  | cons {l : Lexeme} {v : Value} {text : String} {vs : List Value} {cs : List Char}
      (literal : l.Literal kind v) (printed : expression.value v = .ok text)
      (later : RowShown kind vs cs) : RowShown kind (v :: vs) (text.toList ++ ' ' :: cs)

theorem RowShown.of_values {members : List Lexeme} {values : List Value} {texts : List String}
    (literals : List.Forall₂ (fun l v => l.Literal kind v) members values)
    (nonempty : values ≠ []) (printed : expression.values values = .ok texts) :
    RowShown kind values ([' '].intercalate (texts.map String.toList) ++ [']']) := by
  induction literals generalizing texts with
  | nil => exact absurd rfl nonempty
  | @cons l v members values literal later ih =>
    obtain ⟨text, first, printed⟩ := bind_eq_ok_iff.mp printed
    obtain ⟨more, rest, printed⟩ := bind_eq_ok_iff.mp printed
    cases printed
    cases later with
    | nil =>
      cases rest
      rw [List.map_singleton, List.intercalate_singleton]
      exact .last literal first
    | @cons _ w _ values _ _ =>
      have rowLater := ih (List.cons_ne_nil _ _) rest
      obtain ⟨second, -, rest⟩ := bind_eq_ok_iff.mp rest
      obtain ⟨others, -, rest⟩ := bind_eq_ok_iff.mp rest
      cases rest
      rw [List.map_cons, List.map_cons, List.intercalate_cons_cons, ← List.map_cons]
      have row := RowShown.cons literal first rowLater
      simpa using row

/-- Printed lists are told apart. -/
theorem RowShown.unique {values others : List Value} {cs ds : List Char}
    (row : RowShown kind values cs) (otherRow : RowShown kind others ds)
    (same : cs ++ rest = ds ++ otherRest) : values = others ∧ rest = otherRest := by
  have bracket : IsBoundary (']' :: rest) := Lexeme.isBoundary_cons (by decide)
  have otherBracket : IsBoundary (']' :: otherRest) := Lexeme.isBoundary_cons (by decide)
  have blank (cs : List Char) : IsBoundary (' ' :: cs) := Lexeme.isBoundary_cons (by decide)
  -- behind the same value stands a blank or a bracket, so both rows go on or both end
  induction row generalizing others ds with
  | last literal printed =>
    rw [List.append_assoc, List.singleton_append] at same
    cases otherRow with
    | last otherLiteral otherPrinted =>
      rw [List.append_assoc, List.singleton_append] at same
      obtain ⟨rfl, tail⟩ :=
        eq_of_printed literal printed bracket otherLiteral otherPrinted otherBracket same
      exact ⟨rfl, (List.cons.inj tail).2⟩
    | cons otherLiteral otherPrinted =>
      rw [List.append_assoc, List.cons_append] at same
      obtain ⟨-, tail⟩ :=
        eq_of_printed literal printed bracket otherLiteral otherPrinted (blank _) same
      cases tail
  | cons literal printed _ ih =>
    rw [List.append_assoc, List.cons_append] at same
    cases otherRow with
    | last otherLiteral otherPrinted =>
      rw [List.append_assoc, List.singleton_append] at same
      obtain ⟨-, tail⟩ :=
        eq_of_printed literal printed (blank _) otherLiteral otherPrinted otherBracket same
      cases tail
    | cons otherLiteral otherPrinted otherLater =>
      rw [List.append_assoc, List.cons_append] at same
      obtain ⟨rfl, tail⟩ :=
        eq_of_printed literal printed (blank _) otherLiteral otherPrinted (blank _) same
      obtain ⟨rfl, ends⟩ := ih otherLater (List.cons.inj tail).2
      exact ⟨rfl, ends⟩

end Value

/-! ### Right-hand sides -/

/-- A printed list is a bracket with the row of its values behind it. -/
theorem Operand.exists_rowShown {kind : Option Kind} {members : List Lexeme}
    {values : List Value} {text : String}
    (literals : List.Forall₂ (fun l v => l.Literal kind v) members values)
    (nonempty : values ≠ []) (printed : expression.operand (.set ⟨values⟩) = .ok text) :
    ∃ cs, text.toList = '[' :: cs ∧ Value.RowShown kind values cs := by
  rw [Dialect.operand] at printed
  obtain ⟨texts, listed, rfl⟩ := map_eq_ok_iff.mp printed
  refine ⟨_, ?_, Value.RowShown.of_values literals nonempty listed⟩
  simp [expression, String.toList_append, String.toList_intercalate]

/-- What can stand on the right-hand side of one operator is told apart when it is printed. -/
theorem Operand.Spelled.eq_of_printed {kind : Option Kind} {op : Operator}
    {operand other : Operand} {right otherRight : List Lexeme} {text otherText : String}
    {rest otherRest : List Char} (taken : operand.Spelled kind op right)
    (printed : expression.operand operand = .ok text) (boundary : IsBoundary rest)
    (otherTaken : other.Spelled kind op otherRight)
    (otherPrinted : expression.operand other = .ok otherText)
    (otherBoundary : IsBoundary otherRest)
    (same : text.toList ++ rest = otherText.toList ++ otherRest) :
    operand = other ∧ rest = otherRest := by
  have noList : op.isScalar = true → op.isMembership ≠ true := by cases op <;> decide
  have noSearch : op.isScalar = true → op.isPattern ≠ true := by cases op <;> decide
  have apart : op.isMembership = true → op.isPattern ≠ true := by cases op <;> decide
  cases taken with
  | value scalar literal =>
    cases otherTaken with
    | value _ otherLiteral =>
      obtain ⟨rfl, ends⟩ := Value.eq_of_printed literal printed boundary otherLiteral otherPrinted
        otherBoundary same
      exact ⟨rfl, ends⟩
    | list membership => exact absurd membership (noList scalar)
    | pattern search => exact absurd search (noSearch scalar)
  | list membership nonempty literals =>
    cases otherTaken with
    | value scalar => exact absurd membership (noList scalar)
    | list _ otherNonempty otherLiterals =>
      obtain ⟨cs, shape, row⟩ := Operand.exists_rowShown literals nonempty printed
      obtain ⟨ds, otherShape, otherRow⟩ :=
        Operand.exists_rowShown otherLiterals otherNonempty otherPrinted
      rw [shape, otherShape] at same
      obtain ⟨rfl, ends⟩ := row.unique otherRow (List.cons.inj same).2
      exact ⟨rfl, ends⟩
    | pattern search => exact absurd search (apart membership)
  | @pattern source search =>
    cases otherTaken with
    | value scalar => exact absurd search (noSearch scalar)
    | list membership => exact absurd search (apart membership)
    | @pattern otherSource _ =>
      cases printed
      cases otherPrinted
      obtain ⟨sameText, -, ends⟩ := Lexeme.Spelled.unique
        (Lexeme.spelled_quoteEscaped source) trivial
        (Lexeme.spelled_quoteEscaped otherSource) trivial same
      cases sameText
      exact ⟨rfl, ends⟩

/-! ### Clauses -/

/-- No symbol of an operator with a blank behind it begins another one. -/
theorem Operator.eq_of_symbol {op other : Operator} {rest otherRest : List Char}
    (same : op.symbol.toList ++ ' ' :: rest = other.symbol.toList ++ ' ' :: otherRest) :
    op = other ∧ rest = otherRest := by
  cases op <;> cases other <;> simp_all [symbol]

/-- A name has only one target, since the schema gives each field one kind. -/
theorem Target.Named.unique {schema : Schema} {target other : Target} {l : Lexeme}
    (named : target.Named schema l) (otherNamed : other.Named schema l) : target = other := by
  cases named with
  | record =>
    cases otherNamed with
    | record => rfl
    | field _ distinct => exact absurd rfl distinct
  | field known distinct =>
    cases otherNamed with
    | record => exact absurd rfl distinct
    | field otherKnown =>
      rw [known] at otherKnown
      cases otherKnown
      rfl

/-- The text of a clause is its name, its symbol and its right-hand side. -/
theorem Clause.exists_toList_print {c : Clause} {text : String} (printed : c.print = .ok text) :
    ∃ right, expression.operand c.comparison.operand = .ok right ∧
      text.toList = (c.target.name?.getD recordName).toList ++
        ' ' :: (c.comparison.op.symbol.toList ++ ' ' :: right.toList) := by
  rw [print, Dialect.comparison] at printed
  obtain ⟨right, shown, rfl⟩ := map_eq_ok_iff.mp printed
  refine ⟨right, shown, ?_⟩
  simp [expression, String.toList_append]

/-- Printed clauses are told apart, wherever they end. -/
theorem Clause.Written.eq_of_printed {schema : Schema} {c other : Clause}
    {text otherText : String} {rest otherRest : List Char} (written : c.Written schema)
    (printed : c.print = .ok text) (boundary : IsBoundary rest)
    (otherWritten : other.Written schema) (otherPrinted : other.print = .ok otherText)
    (otherBoundary : IsBoundary otherRest)
    (same : text.toList ++ rest = otherText.toList ++ otherRest) :
    c = other ∧ rest = otherRest := by
  obtain ⟨right, shown, shape⟩ := Clause.exists_toList_print printed
  obtain ⟨otherRight, otherShown, otherShape⟩ := Clause.exists_toList_print otherPrinted
  obtain ⟨lexemes, said, sourced⟩ := written
  obtain @⟨target, op, operand, name, words, ending, named, -, taken⟩ := said
  obtain ⟨otherLexemes, otherSaid, otherSourced⟩ := otherWritten
  obtain @⟨otherTarget, otherOp, otherOperand, otherName, otherWords, otherEnding, otherNamed, -,
    otherTaken⟩ := otherSaid
  obtain rfl := named.eq_word
  obtain ⟨source, spelled⟩ := sourced _ List.mem_cons_self
  obtain rfl := spelled.eq_toList
  obtain rfl := otherNamed.eq_word
  obtain ⟨otherSource, otherSpelled⟩ := otherSourced _ List.mem_cons_self
  obtain rfl := otherSpelled.eq_toList
  rw [shape, otherShape] at same
  simp only [List.append_assoc, List.cons_append] at same
  obtain ⟨sameName, -, afterName⟩ := Lexeme.Spelled.unique spelled
    (Lexeme.ends_of_isBoundary (Lexeme.isBoundary_cons (by decide))) otherSpelled
    (Lexeme.ends_of_isBoundary (Lexeme.isBoundary_cons (by decide))) same
  rw [← sameName] at otherNamed
  obtain rfl := named.unique otherNamed
  obtain ⟨rfl, afterOperator⟩ := Operator.eq_of_symbol (List.cons.inj afterName).2
  obtain ⟨rfl, ends⟩ := taken.eq_of_printed shown boundary otherTaken otherShown otherBoundary
    afterOperator
  exact ⟨rfl, ends⟩

end RecordFilter
