import RecordFilter.Expression.Basic
import RecordFilter.Expression.Literal
import RecordFilter.Schema.Basic
import RecordFilter.Token.Reading

/-!
# Reading expressions

Expressions are read from left to right, and the first token that cannot be right decides
the error. Three forms of clauses are known, where a target is a field of the schema or
the record itself:

* a target, a comparison symbol and a literal;
* a target, `IN` or `NOT IN`, and literals of one kind between parentheses;
* a target, `MATCH` or `NOT MATCH`, and a quoted text.

Between clauses there may be `AND` or `OR`. A clause without a connective is joined as the
clause before it was, the second clause by `AND`.

## Main definitions

* `OperationError`, `ParseError`: what can be wrong with an expression
* `Clause.read`: the first clause of a row of tokens
* `Expression.read`: the clauses of a row of tokens
* `parse`: the condition that a text stands for

## Main results

* `Clause.length_rest_lt`: reading a clause takes at least one token
-/

namespace RecordFilter

/-- Why an operator cannot stand where it stands, or cannot take what follows it. -/
inductive OperationError where
  | unknownOperator (spelling : String)
  /-- The literal has no order. -/
  | notOrdered (op : Operator) (kind : Kind)
  /-- No list follows. -/
  | listExpected (op : Operator) (found : String)
  | emptyList (op : Operator)
  /-- The values of a list do not go together. -/
  | badList (cause : EvalError)
  /-- The field holds no text to search. -/
  | notTextField (op : Operator) (kind : Kind)
  | patternExpected (op : Operator) (found : String)
  /-- The token is no literal, or none of the expected kind. -/
  | notLiteral (found : String) (kind : Option Kind)
  deriving DecidableEq, Repr

/-- The wording of an error. -/
def OperationError.message : OperationError → String
  | unknownOperator spelling => s!"unknown operator '{spelling}'"
  | notOrdered op kind => s!"operator '{op.symbol}' cannot order {kind.name} values"
  | listExpected op found => s!"expected '(' after {op.symbol}, got '{found}'"
  | emptyList op => s!"{op.symbol} list needs at least one value"
  | badList cause => cause.message
  | notTextField op kind => s!"operator '{op.symbol}' needs a string field, not {kind.name}"
  | patternExpected op found =>
    s!"operator '{op.symbol}' needs a quoted pattern, got '{found}'"
  | notLiteral found none => s!"'{found}' is not a literal"
  | notLiteral found (some kind) => s!"'{found}' is not a {kind.name} literal"

/-- What is wrong with a row of tokens. -/
inductive Defect where
  /-- The row ends inside a clause, after the token that was read last. -/
  | unfinished (last : Option Token)
  | invalidOperation (token : Token) (cause : OperationError)
  | unknownField (name : String)
  deriving DecidableEq, Repr

/-- What is wrong with the text of an expression. Tokens are cited as messages cite
them. -/
inductive ParseError where
  | tokenize (e : TokenizeError)
  /-- The text ends inside a clause; the token that was read last is cited. -/
  | unfinished (token : String)
  | invalidOperation (token : String) (cause : OperationError)
  | unknownField (field : String)
  deriving DecidableEq, Repr

namespace ParseError

/-- The name of an error in data. -/
def code : ParseError → String
  | tokenize _ => "TOKENIZE_ERROR"
  | unfinished _ => "UNFINISHED_MESSAGE"
  | invalidOperation _ _ => "INVALID_OPERATION"
  | unknownField _ => "UNKNOWN_FIELD"

/-- The wording of an error, after its name. -/
def detail : ParseError → String
  | tokenize e =>
    let cited := Text.citeChar e.char
    s!"cannot tokenize {cited} at offset {e.offset}"
  | unfinished token => s!"expression ends after '{token}'"
  | invalidOperation _ cause => cause.message
  | unknownField field => s!"field '{field}' is not defined"

/-- The wording of an error. -/
def message (e : ParseError) : String := e.code ++ ": " ++ e.detail

end ParseError

namespace Clause

/-- The target that a token names. -/
def readTarget (schema : Schema) (t : Token) : Except Defect Target :=
  match t.lexeme with
  | .word name =>
    if name = "_" then .ok .record
    else
      match schema.kind? name with
      | some kind => .ok (.field name kind)
      | none => .error (.unknownField name)
  | _ => .error (.unknownField t.display)

/-- Reads an operator that stands after the token `before`, with the token that errors about
it cite, the first of two, and the token that it ends with. -/
def readOperator (before : Token) :
    List Token → Except Defect (Operator × Token × Token × List Token)
  | [] => .error (.unfinished before)
  | t :: rest =>
    match t.lexeme with
    | .symbol s =>
      match Operator.ofSymbol? s with
      | some op => .ok (op, t, t, rest)
      | none => .error (.invalidOperation t (.unknownOperator s))
    | l =>
      if l.isKeyword "IN" then .ok (.isIn, t, t, rest)
      else if l.isKeyword "MATCH" then .ok (.isMatch, t, t, rest)
      else if l.isKeyword "NOT" then
        match rest with
        | [] => .error (.unfinished t)
        | next :: rest =>
          if next.lexeme.isKeyword "IN" then .ok (.notIn, t, next, rest)
          else if next.lexeme.isKeyword "MATCH" then .ok (.notMatch, t, next, rest)
          else .error (.invalidOperation next (.unknownOperator ("NOT " ++ next.display)))
      else .error (.invalidOperation t (.unknownOperator t.display))

/-- The literal that a token spells, of the given kind if it is known. -/
def readLiteral (kind : Option Kind) (t : Token) : Except Defect Value :=
  match literal? kind t.lexeme with
  | some v => .ok v
  | none => .error (.invalidOperation t (.notLiteral t.display kind))

/-- Reads the single value of a scalar operator. -/
def readValue (op : Operator) (opToken : Token) (kind : Option Kind) (before : Token) :
    List Token → Except Defect (Operand × List Token)
  | [] => .error (.unfinished before)
  | t :: rest =>
    match readLiteral kind t with
    | .error d => .error d
    | .ok v =>
      if op.isOrdering && !v.kind.isOrdered then
        .error (.invalidOperation opToken (.notOrdered op v.kind))
      else .ok (.value v, rest)

/-- Reads literals up to a closing parenthesis. -/
def readMembers (kind : Option Kind) (before : Token) :
    List Token → Except Defect (List Value × List Token)
  | [] => .error (.unfinished before)
  | t :: rest =>
    if t.lexeme = .closing then .ok ([], rest)
    else
      match readLiteral kind t with
      | .error d => .error d
      | .ok v =>
        match readMembers kind t rest with
        | .error d => .error d
        | .ok (members, rest) => .ok (v :: members, rest)

/-- Reads the list of a membership operator. Errors about the list as a whole cite its
opening parenthesis. -/
def readList (op : Operator) (kind : Option Kind) (before : Token) :
    List Token → Except Defect (Operand × List Token)
  | [] => .error (.unfinished before)
  | t :: rest =>
    if t.lexeme ≠ .opening then .error (.invalidOperation t (.listExpected op t.display))
    else
      match readMembers kind t rest with
      | .error d => .error d
      | .ok ([], _) => .error (.invalidOperation t (.emptyList op))
      | .ok (members, rest) =>
        match ValueSet.ofValues members with
        | .error cause => .error (.invalidOperation t (.badList cause))
        | .ok s => .ok (.set s, rest)

/-- Reads the pattern of a search operator. That the field is not a text is noticed
first. -/
def readPattern (op : Operator) (opToken : Token) (kind : Option Kind) (before : Token)
    (tokens : List Token) : Except Defect (Operand × List Token) :=
  match kind.filter (· ≠ .text) with
  | some kind => .error (.invalidOperation opToken (.notTextField op kind))
  | none =>
    match tokens with
    | [] => .error (.unfinished before)
    | t :: rest =>
      match t.lexeme with
      | .text source => .ok (.pattern ⟨source⟩, rest)
      | _ => .error (.invalidOperation t (.patternExpected op t.display))

/-- Reads what an operator takes. -/
def readOperand (op : Operator) (opToken : Token) (kind : Option Kind) (before : Token)
    (tokens : List Token) : Except Defect (Operand × List Token) :=
  if op.isMembership then readList op kind before tokens
  else if op.isPattern then readPattern op opToken kind before tokens
  else readValue op opToken kind before tokens

/-- Reads a clause that stands after the token `before`, if there is one. -/
def read (schema : Schema) (before : Option Token) :
    List Token → Except Defect (Clause × List Token)
  | [] => .error (.unfinished before)
  | t :: rest =>
    match readTarget schema t with
    | .error d => .error d
    | .ok target =>
      match readOperator t rest with
      | .error d => .error d
      | .ok (op, opToken, last, rest) =>
        match readOperand op opToken target.kind? last rest with
        | .error d => .error d
        | .ok (operand, rest) => .ok (⟨target, ⟨op, operand⟩⟩, rest)

theorem length_rest_lt_of_readOperator {before : Token} {tokens rest : List Token}
    {op : Operator} {opToken last : Token}
    (h : readOperator before tokens = .ok (op, opToken, last, rest)) :
    rest.length < tokens.length := by
  unfold readOperator at h
  split at h
  · cases h
  · split at h
    · split at h
      · cases h; exact Nat.lt_succ_self _
      · cases h
    · split at h
      · cases h; exact Nat.lt_succ_self _
      · split at h
        · cases h; exact Nat.lt_succ_self _
        · split at h
          · split at h
            · cases h
            · split at h
              · cases h; exact Nat.lt_succ_of_lt (Nat.lt_succ_self _)
              · split at h
                · cases h; exact Nat.lt_succ_of_lt (Nat.lt_succ_self _)
                · cases h
          · cases h

theorem length_rest_lt_of_readMembers {kind : Option Kind} {before : Token}
    {tokens rest : List Token} {members : List Value}
    (h : readMembers kind before tokens = .ok (members, rest)) :
    rest.length < tokens.length := by
  induction tokens generalizing before members with
  | nil => cases h
  | cons t tail ih =>
    rw [readMembers] at h
    split at h
    · cases h; exact Nat.lt_succ_self _
    · split at h
      · cases h
      · split at h
        · cases h
        · next read => cases h; exact Nat.lt_succ_of_lt (ih read)

theorem length_rest_lt_of_readOperand {op : Operator} {opToken : Token} {kind : Option Kind}
    {before : Token} {tokens rest : List Token} {operand : Operand}
    (h : readOperand op opToken kind before tokens = .ok (operand, rest)) :
    rest.length < tokens.length := by
  unfold readOperand at h
  split at h
  · unfold readList at h
    split at h
    · cases h
    · split at h
      · cases h
      · split at h
        · cases h
        · cases h
        · next read =>
          split at h
          · cases h
          · cases h; exact Nat.lt_succ_of_lt (length_rest_lt_of_readMembers read)
  · split at h
    · unfold readPattern at h
      split at h
      · cases h
      · split at h
        · cases h
        · split at h
          · cases h; exact Nat.lt_succ_self _
          · cases h
    · unfold readValue at h
      split at h
      · cases h
      · split at h
        · cases h
        · split at h
          · cases h
          · cases h; exact Nat.lt_succ_self _

/-- Reading a clause takes at least one token. -/
theorem length_rest_lt {schema : Schema} {before : Option Token} {tokens rest : List Token}
    {c : Clause} (h : read schema before tokens = .ok (c, rest)) :
    rest.length < tokens.length := by
  unfold read at h
  split at h
  · cases h
  · split at h
    · cases h
    · split at h
      · cases h
      · next operatorRead =>
        split at h
        · cases h
        · next operandRead =>
          cases h
          have operandRest := length_rest_lt_of_readOperand operandRead
          have operatorRest := length_rest_lt_of_readOperator operatorRead
          exact Nat.lt_succ_of_lt (Nat.lt_trans operandRest operatorRest)

end Clause

/-- The connective that a token spells. -/
def Connective.ofToken? (t : Token) : Option Connective :=
  if t.lexeme.isKeyword "AND" then some .and
  else if t.lexeme.isKeyword "OR" then some .or
  else none

/-- Takes a connective from the front of a row of tokens; without one, `current` stays in
force. -/
def Connective.read (current : Connective) : List Token → Connective × List Token
  | [] => (current, [])
  | t :: rest =>
    match ofToken? t with
    | some connective => (connective, rest)
    | none => (current, t :: rest)

theorem Connective.length_read_le (current : Connective) (tokens : List Token) :
    (current.read tokens).2.length ≤ tokens.length := by
  unfold Connective.read
  split
  · exact Nat.le_refl _
  · split
    · exact Nat.le_succ _
    · exact Nat.le_refl _

namespace Expression

/-- Reads the clauses after the first. -/
def readRest (schema : Schema) (current : Connective) (tokens : List Token) :
    Except Defect (List (Connective × Clause)) :=
  if tokens.isEmpty then .ok []
  else
    match _next : Clause.read schema tokens.head? (current.read tokens).2 with
    | .error d => .error d
    | .ok (clause, rest) =>
      let connective := (current.read tokens).1
      match readRest schema connective rest with
      | .error d => .error d
      | .ok items => .ok ((connective, clause) :: items)
termination_by tokens.length
decreasing_by
  exact Nat.lt_of_lt_of_le (Clause.length_rest_lt _next) (current.length_read_le tokens)

/-- The expression that a row of tokens spells; a row without tokens spells none. -/
def read (schema : Schema) (tokens : List Token) : Except Defect (Option Expression) :=
  if tokens.isEmpty then .ok none
  else
    match Clause.read schema none tokens with
    | .error d => .error d
    | .ok (first, rest) => (readRest schema .and rest).map fun rest => some ⟨first, rest⟩

end Expression

/-- What is wrong with a text, given what is wrong with its tokens. -/
def Defect.toParseError : Defect → ParseError
  | unfinished last => .unfinished ((last.map Token.display).getD "")
  | invalidOperation t cause => .invalidOperation t.display cause
  | unknownField name => .unknownField name

/-- The condition that a row of tokens stands for. Without any tokens it is the one that
always holds. -/
def parseTokens (schema : Schema) (tokens : List Token) : Except ParseError Condition :=
  match Expression.read schema tokens with
  | .error d => .error d.toParseError
  | .ok none => .ok .always
  | .ok (some e) => .ok e.toCondition

/-- The condition that a text stands for, where clauses may name the fields of a
schema. -/
def parse (schema : Schema) (text : String) : Except ParseError Condition :=
  match tokenize text with
  | .error e => .error (.tokenize e)
  | .ok tokens => parseTokens schema tokens

end RecordFilter
