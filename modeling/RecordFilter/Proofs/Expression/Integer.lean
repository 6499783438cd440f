import Mathlib.Data.Nat.Digits.Lemmas
import RecordFilter.Proofs.Expression.Parsing
import RecordFilter.Proofs.Token.Decomposition

/-!
# Integer literals

A number denotes the sum of its digits, each counted by its place, with the sign in front. Its
spelling may be of any length, and the integer kinds are narrow, but nothing is lost on the way: a
literal is read as exactly the integer that it denotes, or it is refused. What is refused has a
fraction, is out of range, or brings a minus sign to a kind without negative integers, where even
zero takes none. Zeros in front and a plus sign say nothing.

## Main definitions

* `Numeral.integer`: the integer that a number without a fraction denotes, by the places of digits
* `IntKind.Accepts`: the numbers that are literals of an integer kind
* `IntKind.push?`: one more digit, within the range of an integer kind

## Main results

* `Numeral.digitsValue_eq_ofDigits`: the digits from left to right, and each in its place
* `IntKind.literal?_eq`: an integer kind reads what it accepts
* `IntKind.foldlM_push?`: digit by digit, the range is left exactly if the integer is out of it
* `parseTokens_comparison`: a number on the right-hand side of a clause
* `number_literals`: every number that is scanned, as a literal of every integer kind
-/

namespace RecordFilter

namespace Numeral

/-! ### Digits in their places -/

/-- The number of a digit. -/
def digitNumber (c : Char) : Nat := c.toNat - '0'.toNat

/-- Reading digits from left to right gives each the weight of its place. -/
theorem digitsValue_eq_ofDigits (ds : List Char) :
    digitsValue ds = Nat.ofDigits 10 (ds.map digitNumber).reverse := by
  induction ds using List.reverseRecOn with
  | nil => rfl
  | append_singleton ds d ih =>
    rw [digitsValue, List.foldl_concat, List.map_append, List.reverse_append, List.map_singleton,
      List.reverse_singleton, List.singleton_append, Nat.ofDigits_cons, ← ih, Nat.add_comm]
    rfl

/-- The integer that a number without a fraction denotes: each digit counts by its place, and a
minus sign negates. -/
def integer (n : Numeral) : Int :=
  (if n.negative then -1 else 1) * (Nat.ofDigits 10 (n.whole.map digitNumber).reverse : Nat)

variable {n : Numeral}

theorem integer_side (negative : Bool) (ds : List Char) (fraction : Option (List Char)) :
    negative = false ∧ 0 ≤ integer ⟨negative, ds, fraction⟩ ∨
      negative = true ∧ integer ⟨negative, ds, fraction⟩ ≤ 0 := by
  cases negative <;> simp [integer]

/-- The integer with one more digit, on the side of zero that the sign gives. -/
def withDigit (negative : Bool) (i : Int) (digit : Char) : Int :=
  10 * i + (if negative then -1 else 1) * digitNumber digit

theorem integer_concat (negative : Bool) (ds : List Char) (d : Char)
    (fraction : Option (List Char)) :
    integer ⟨negative, ds ++ [d], fraction⟩ =
      withDigit negative (integer ⟨negative, ds, fraction⟩) d := by
  simp only [integer, withDigit, List.map_append, List.map_singleton, List.reverse_append,
    List.reverse_singleton, List.singleton_append, Nat.ofDigits_cons]
  push_cast
  ring

/-- One more digit never leads nearer to zero. -/
theorem withDigit_outward {negative : Bool} {i : Int}
    (side : negative = false ∧ 0 ≤ i ∨ negative = true ∧ i ≤ 0) (digit : Char) :
    0 ≤ i ∧ i ≤ 10 * i ∧ 10 * i ≤ withDigit negative i digit ∨
      withDigit negative i digit ≤ 10 * i ∧ 10 * i ≤ i ∧ i ≤ 0 := by
  rcases side with ⟨rfl, nonneg⟩ | ⟨rfl, nonpos⟩
  · left
    simp only [withDigit, Bool.false_eq_true, if_false]
    omega
  · right
    simp only [withDigit, if_true]
    omega

theorem toInt?_eq : n.toInt? = if n.fraction = none then some n.integer else none := by
  obtain ⟨negative, whole, fraction⟩ := n
  cases fraction with
  | some ds => rfl
  | none => cases negative <;> simp [toInt?, integer, digitsValue_eq_ofDigits]

/-- Zeros in front of digits say nothing. -/
theorem digitsValue_replicate_append (m : Nat) (ds : List Char) :
    digitsValue (List.replicate m '0' ++ ds) = digitsValue ds := by
  rw [digitsValue_eq_ofDigits, digitsValue_eq_ofDigits, List.map_append, List.reverse_append,
    List.map_replicate, List.reverse_replicate]
  exact Nat.ofDigits_append_replicate_zero _

/-- The number with zeros in front of its digits. -/
def padded (n : Numeral) (m : Nat) : Numeral := { n with whole := List.replicate m '0' ++ n.whole }

theorem toInt?_padded (n : Numeral) (m : Nat) : (n.padded m).toInt? = n.toInt? := by
  simp only [toInt?, padded, digitsValue_replicate_append]

theorem toDecimal_padded (n : Numeral) (m : Nat) : (n.padded m).toDecimal = n.toDecimal := by
  simp only [toDecimal, padded, List.append_assoc, digitsValue_replicate_append]

theorem Spelled.padded {cs mark : List Char} (spelled : n.Spelled cs) (sign : Sign n.negative mark)
    (m : Nat) :
    (n.padded m).Spelled (mark ++ (List.replicate m '0' ++ n.whole ++ fractionText n.fraction)) := by
  cases spelled with
  | intro _ wholeDigits fractionDigits =>
    refine .intro sign ⟨by simp [wholeDigits.1], fun c member => ?_⟩ fractionDigits
    rcases List.mem_append.mp member with zero | digit
    · rw [List.eq_of_mem_replicate zero]
      decide
    · exact wholeDigits.2 c digit

end Numeral

/-! ### Integer kinds -/

/-- The number is a literal of the integer kind. -/
structure IntKind.Accepts (k : IntKind) (n : Numeral) : Prop where
  noFraction : n.fraction = none
  inRange : k.Contains n.integer
  noMinus : k.signed = false → n.negative = false

instance (k : IntKind) (n : Numeral) : Decidable (k.Accepts n) :=
  decidable_of_iff
    (n.fraction = none ∧ k.Contains n.integer ∧ (k.signed = false → n.negative = false))
    ⟨fun ⟨noFraction, inRange, noMinus⟩ => ⟨noFraction, inRange, noMinus⟩,
      fun accepted => ⟨accepted.noFraction, accepted.inRange, accepted.noMinus⟩⟩

/-- An integer kind reads exactly what it accepts, as the integer that is denoted. -/
theorem IntKind.literal?_eq (k : IntKind) (n : Numeral) :
    k.literal? n =
      if accepted : k.Accepts n then some (.int k n.integer accepted.inRange) else none := by
  split
  · next accepted =>
    refine Kind.intLiteral?_eq_some_iff.mpr ⟨accepted.noMinus, n.integer, ?_, accepted.inRange, rfl⟩
    rw [Numeral.toInt?_eq, if_pos accepted.noFraction]
  · next refused =>
    refine Option.eq_none_iff_forall_ne_some.mpr fun v read => refused ?_
    obtain ⟨noMinus, i, whole, inRange, -⟩ := Kind.intLiteral?_eq_some_iff.mp read
    rw [Numeral.toInt?_eq] at whole
    split at whole
    · next noFraction =>
      cases whole
      exact ⟨noFraction, inRange, noMinus⟩
    · cases whole

/-! ### One digit after the other -/

namespace IntKind

variable (k : IntKind)

/-- Puts a digit after those of an integer, as long as no step on the way leaves the range of the
kind. -/
def push? (negative : Bool) (i : Int) (digit : Char) : Option Int :=
  if k.Contains (10 * i) then
    let next := Numeral.withDigit negative i digit
    if k.Contains next then some next else none
  else none

theorem contains_zero : k.Contains 0 := by cases k <;> decide

/-- Between zero and an integer of the kind there are only integers of the kind. -/
theorem Contains.of_between {k : IntKind} {i j : Int} (outer : k.Contains j)
    (between : 0 ≤ i ∧ i ≤ j ∨ j ≤ i ∧ i ≤ 0) : k.Contains i := by
  have zero := k.contains_zero
  unfold Contains at *
  omega

/-- Digits lead out of the range of a kind exactly if the integer that all of them denote is out of
it: no later digit leads back. -/
theorem foldlM_push? (n : Numeral) :
    n.whole.foldlM (k.push? n.negative) 0 =
      if k.Contains n.integer then some n.integer else none := by
  obtain ⟨negative, whole, fraction⟩ := n
  dsimp only
  -- the digits are taken from the left, so the last one is the last step
  induction whole using List.reverseRecOn with
  | nil =>
    have empty : Numeral.integer ⟨negative, [], fraction⟩ = 0 := by simp [Numeral.integer]
    rw [empty, if_pos k.contains_zero]
    rfl
  | append_singleton ds d ih =>
    have outward := Numeral.withDigit_outward (Numeral.integer_side negative ds fraction) d
    rw [List.foldlM_append, ih, Numeral.integer_concat]
    generalize Numeral.integer ⟨negative, ds, fraction⟩ = i at outward ⊢
    by_cases inRange : k.Contains (Numeral.withDigit negative i d)
    · have shifted : k.Contains (10 * i) := inRange.of_between (by omega)
      have before : k.Contains i := shifted.of_between (by omega)
      simp [push?, before, shifted, inRange]
    · by_cases before : k.Contains i <;> simp [push?, before, inRange]

/-- The digits can be read one after the other in the width of the kind. -/
theorem literal?_eq_foldlM {k : IntKind} {n : Numeral} (noFraction : n.fraction = none)
    (noMinus : k.signed = false → n.negative = false) :
    k.literal? n = (n.whole.foldlM (k.push? n.negative) 0).bind (Value.int? k) := by
  rw [literal?_eq, foldlM_push?]
  by_cases inRange : k.Contains n.integer
  · rw [dif_pos ⟨noFraction, inRange, noMinus⟩, if_pos inRange, Option.bind_some, Value.int?,
      dif_pos inRange]
  · rw [dif_neg fun accepted => inRange accepted.inRange, if_neg inRange, Option.bind_none]

end IntKind

/-! ### Tokens -/

variable {s : String} {n : Numeral}

/-- A number token is read as the number that it spells. -/
theorem literal?_number (spelled : n.Spelled s.toList) :
    (∀ k, literal? (some (.int k)) (.number s) = k.literal? n) ∧
    literal? none (.number s) =
      if n.fraction.isSome then some (.double (.ofNumeral _ n)) else IntKind.i64.literal? n := by
  have read := Numeral.read?_eq_some_iff.mpr spelled
  constructor
  · intro k
    simp [literal?, Kind.literal?, read]
  · simp only [literal?, Lexeme.literal?, read]

/-- Zeros and a plus sign in front of a number make no difference to any literal. -/
theorem literal?_padded {mark : List Char} (spelled : n.Spelled s.toList)
    (sign : Numeral.Sign n.negative mark) (m : Nat) (kind : Option Kind) :
    literal? kind (.number (String.ofList
        (mark ++ (List.replicate m '0' ++ n.whole ++ Numeral.fractionText n.fraction)))) =
      literal? kind (.number s) := by
  have read := Numeral.read?_eq_some_iff.mpr spelled
  have readPadded := Numeral.read?_eq_some_iff.mpr (spelled.padded sign m)
  have integers (k : IntKind) : k.literal? (n.padded m) = k.literal? n := by
    rw [IntKind.literal?, IntKind.literal?, Numeral.toInt?_padded]
    rfl
  have nearest (F : Binary.Format) : Binary.ofNumeral F (n.padded m) = Binary.ofNumeral F n := by
    rw [Binary.ofNumeral, Binary.ofNumeral, Numeral.toDecimal_padded]
    rfl
  rcases kind with _ | (k | _ | _ | _ | _)
  · simp only [literal?, Lexeme.literal?, String.toList_ofList, read, readPadded, integers, nearest]
    rfl
  all_goals
    simp only [literal?, Kind.literal?, String.toList_ofList, read, readPadded, integers, nearest,
      Option.bind_some, Option.map_some]

/-- A scanned number token is spelled as a number. -/
theorem exists_spelled_of_mem_scan {text : String} {t : Token}
    (scanned : t ∈ (Token.scan 0 text.toList).1) (number : t.lexeme = .number s) :
    ∃ n : Numeral, n.Spelled s.toList := by
  obtain ⟨front, back, -, row, -⟩ := @Token.exists_decomposes_scan 0 text.toList [] rfl
  obtain ⟨source, spelled⟩ := row.exists_spelled scanned
  rw [number] at spelled
  cases spelled with
  | number numeral => exact ⟨_, by rwa [String.toList_ofList]⟩

/-! ### Clauses -/

/-- A number is never a truth value, so that it can be compared in every way. -/
theorem isOrdered_of_literal?_number {kind : Option Kind} {v : Value}
    (read : literal? kind (.number s) = some v) : v.kind.isOrdered = true := by
  have ordered {kind : Kind} (literal : kind.Literal (.number s) v) : v.kind.isOrdered = true := by
    cases literal <;> rfl
  cases kind with
  | some kind => exact ordered (literal?_eq_some_iff.mp read)
  | none =>
    obtain ⟨kind, -, literal⟩ := literal?_eq_some_iff.mp read
    exact ordered literal

/-- Three tokens that are a target, a comparison symbol and a number are an expression exactly if
the number is a literal for the target. -/
theorem parseTokens_comparison {schema : Schema} {name symbol t : Token} {target : Target}
    {spelling : String} {op : Operator} (named : Clause.readTarget schema name = .ok target)
    (isSymbol : symbol.lexeme = .symbol spelling) (known : Operator.ofSymbol? spelling = some op)
    (isNumber : t.lexeme = .number s) :
    parseTokens schema [name, symbol, t] =
      match literal? target.kind? (.number s) with
      | some v => .ok (Clause.toCondition ⟨target, ⟨op, .value v⟩⟩)
      | none => .error (.invalidOperation s (.notLiteral s target.kind?)) := by
  obtain ⟨scalar, -⟩ := Operator.ofSymbol?_eq_some_iff.mp known
  have operator : Clause.readOperator name [symbol, t] = .ok (op, symbol, symbol, [t]) := by
    simp only [Clause.readOperator, isSymbol, known]
  have operand : Clause.readOperand op symbol target.kind? symbol [t] =
      Clause.readValue op symbol target.kind? symbol [t] := by
    cases op <;> first | rfl | cases scalar
  have cited : t.display = s := by rw [Token.display, isNumber]; rfl
  cases literal : literal? target.kind? (.number s) with
  | none =>
    have unread : Clause.readLiteral target.kind? t =
        .error (.invalidOperation t (.notLiteral s target.kind?)) := by
      rw [Clause.readLiteral, isNumber, literal, cited]
    simp [parseTokens, Expression.read, Clause.read, named, operator, operand, Clause.readValue,
      unread, Defect.toParseError, cited]
  | some v =>
    have read : Clause.readLiteral target.kind? t = .ok v := by
      rw [Clause.readLiteral, isNumber, literal]
    have ordered := isOrdered_of_literal?_number literal
    simp [parseTokens, Expression.read, Clause.read, named, operator, operand, Clause.readValue,
      read, ordered, Expression.readRest, Except.map, Expression.toCondition]

/-- A number that is scanned from a text is a literal of exactly the integer kinds that accept it,
for the very integer that its digits denote, and reading them one after the other within the range
of the kind finds the same. By itself it is of the widest signed kind, or of double precision if it
has a point. Zeros and a plus sign in front make no difference, and a clause takes the number
exactly if it is a literal for the target. -/
theorem number_literals {text s : String} {t : Token}
    (scanned : t ∈ (Token.scan 0 text.toList).1) (isNumber : t.lexeme = .number s) :
    ∃ n : Numeral, n.Spelled s.toList ∧
      (∀ k, literal? (some (.int k)) t.lexeme =
        if accepted : k.Accepts n then some (.int k n.integer accepted.inRange) else none) ∧
      (∀ k : IntKind, n.fraction = none → (k.signed = false → n.negative = false) →
        literal? (some (.int k)) t.lexeme =
          (n.whole.foldlM (k.push? n.negative) 0).bind (Value.int? k)) ∧
      ('.' ∉ s.toList → literal? none t.lexeme =
        if accepted : IntKind.i64.Accepts n then
          some (.int .i64 n.integer accepted.inRange)
        else none) ∧
      ('.' ∈ s.toList → literal? none t.lexeme = some (.double (.ofNumeral _ n))) ∧
      (∀ kind mark m, Numeral.Sign n.negative mark →
        literal? kind (.number (String.ofList
          (mark ++ (List.replicate m '0' ++ n.whole ++ Numeral.fractionText n.fraction)))) =
        literal? kind t.lexeme) ∧
      ∀ schema name symbol target spelling op,
        Clause.readTarget schema name = .ok target → symbol.lexeme = .symbol spelling →
        Operator.ofSymbol? spelling = some op →
        parseTokens schema [name, symbol, t] =
          match literal? target.kind? t.lexeme with
          | some v => .ok (Clause.toCondition ⟨target, ⟨op, .value v⟩⟩)
          | none => .error (.invalidOperation s (.notLiteral s target.kind?)) := by
  obtain ⟨n, spelled⟩ := exists_spelled_of_mem_scan scanned isNumber
  obtain ⟨typed, untyped⟩ := literal?_number spelled
  rw [isNumber]
  refine ⟨n, spelled, fun k => ?_, fun k noFraction noMinus => ?_, fun plain => ?_,
    fun point => ?_, fun kind mark m sign => ?_,
    fun schema name symbol target spelling op named isSymbol known => ?_⟩
  · rw [typed, IntKind.literal?_eq]
  · rw [typed, IntKind.literal?_eq_foldlM noFraction noMinus]
  · rw [untyped, if_neg fun hasFraction => plain (spelled.mem_point_iff.mpr hasFraction),
      IntKind.literal?_eq]
  · rw [untyped, if_pos (spelled.mem_point_iff.mp point)]
  · exact literal?_padded spelled sign m kind
  · exact parseTokens_comparison named isSymbol known isNumber

/-- The lowest integer of eight bits, with a zero in front: the signed kind reads it, and the unsigned
one of the same width refuses it. -/
theorem number_literals_of_lowest :
    (⟨.number "-0128", 5⟩ : Token) ∈ (Token.scan 0 "n >= -0128".toList).1 ∧
    literal? (some (.int .i8)) (.number "-0128") = some (.int .i8 (-128) (by decide)) ∧
    literal? (some (.int .u8)) (.number "-0128") = none ∧
    literal? none (.number "-0128") = some (.int .i64 (-128) (by decide)) ∧
    literal? (some (.int .i8)) (.number "-000128") = literal? (some (.int .i8)) (.number "-0128") ∧
    parseTokens (.ofList [("n", .int .u8)])
        [⟨.word "n", 0⟩, ⟨.symbol ">=", 2⟩, ⟨.number "-0128", 5⟩] =
      .error (.invalidOperation "-0128" (.notLiteral "-0128" (some (.int .u8)))) := by
  have scanned : (⟨.number "-0128", 5⟩ : Token) ∈ (Token.scan 0 "n >= -0128".toList).1 := by
    decide +kernel
  obtain ⟨n, spelled, typed, -, untyped, -, padded, clauses⟩ := number_literals scanned rfl
  have read : some (⟨true, ['0', '1', '2', '8'], none⟩ : Numeral) = some n :=
    Numeral.read?_eq_some_iff.mpr spelled
  cases read
  refine ⟨scanned, typed .i8, typed .u8, untyped (by decide), ?_, ?_⟩
  · exact padded (some (.int .i8)) ['-'] 2 .minus
  · have named : Clause.readTarget (.ofList [("n", .int .u8)]) ⟨.word "n", 0⟩ =
        .ok (.field "n" (.int .u8)) := by decide +kernel
    have clause := clauses _ _ ⟨.symbol ">=", 2⟩ _ ">=" .ge named rfl rfl
    rw [Target.kind?, typed .u8] at clause
    exact clause

end RecordFilter
