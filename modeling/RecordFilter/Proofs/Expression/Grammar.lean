import Mathlib.Data.List.Forall2
import RecordFilter.Expression.Basic
import RecordFilter.Proofs.Expression.Literal
import RecordFilter.Schema.Basic
import RecordFilter.Token.Reading

/-!
# The grammar of expressions

Which rows of lexemes are expressions and what they say, without reading them. A sentence
is a clause followed by items, where an item is a clause with or without a connective
before it. Which connective joins an item is not a matter of grammar: without one of its
own, an item is joined as the item before it, and the first one by `AND`.

## Main definitions

* `Clause.Spelled`: the rows of lexemes that say a clause
* `Item`, `Sentence`, and the rows that say them
* `Item.connected`: the clauses of a row of items with the connectives in force
* `Sentence.OfText`: the sentence that a text says
-/

namespace RecordFilter

/-- The lexeme names the target. The name `_` means the record, whatever the schema says. -/
inductive Target.Named (schema : Schema) : Target → Lexeme → Prop
  | record : Named schema .record (.word "_")
  | field {name : String} {kind : Kind} (known : schema.kind? name = some kind)
      (other : name ≠ "_") : Named schema (.field name kind) (.word name)

/-- The lexemes spell the operator. -/
inductive Operator.Spelled : Operator → List Lexeme → Prop
  | symbol {op : Operator} (scalar : op.isScalar = true) : Spelled op [.symbol op.symbol]
  | isIn {word : Lexeme} (keyword : word.isKeyword "IN" = true) : Spelled .isIn [word]
  | notIn {negation word : Lexeme} (negates : negation.isKeyword "NOT" = true)
      (keyword : word.isKeyword "IN" = true) : Spelled .notIn [negation, word]
  | isMatch {word : Lexeme} (keyword : word.isKeyword "MATCH" = true) :
      Spelled .isMatch [word]
  | notMatch {negation word : Lexeme} (negates : negation.isKeyword "NOT" = true)
      (keyword : word.isKeyword "MATCH" = true) : Spelled .notMatch [negation, word]

/-- The lexemes spell an operand that the operator can take, for a left-hand side whose
kind may be known. -/
inductive Operand.Spelled (kind : Option Kind) : Operator → Operand → List Lexeme → Prop
  /-- One literal. Truth values have no order. -/
  | value {op : Operator} {l : Lexeme} {v : Value} (scalar : op.isScalar = true)
      (literal : l.Literal kind v) (ordered : op.isOrdering = true → v.kind ≠ .bool) :
      Spelled kind op (.value v) [l]
  /-- One or more literals of one kind between parentheses. -/
  | list {op : Operator} {members : List Lexeme} {values : List Value} {common : Kind}
      (membership : op.isMembership = true) (nonempty : values ≠ [])
      (literals : List.Forall₂ (fun l v => l.Literal kind v) members values)
      (oneKind : ∀ v ∈ values, v.kind = common) :
      Spelled kind op (.set ⟨values⟩) (.opening :: (members ++ [.closing]))
  /-- A quoted text, unless the left-hand side is known to be no text. -/
  | pattern {op : Operator} {source : String} (search : op.isPattern = true)
      (searchable : kind = none ∨ kind = some .text) :
      Spelled kind op (.pattern ⟨source⟩) [.text source]

/-- The lexemes say the clause: a target, an operator and an operand. -/
inductive Clause.Spelled (schema : Schema) : Clause → List Lexeme → Prop
  | intro {target : Target} {op : Operator} {operand : Operand} {name : Lexeme}
      {words right : List Lexeme} (named : target.Named schema name)
      (operator : op.Spelled words) (taken : operand.Spelled target.kind? op right) :
      Spelled schema ⟨target, ⟨op, operand⟩⟩ (name :: (words ++ right))

/-- The keyword of a connective. -/
def Connective.keyword : Connective → String
  | and => "AND"
  | or => "OR"

/-- A clause after the first, with the connective that is written before it, if any. -/
structure Item where
  written : Option Connective
  clause : Clause

namespace Item

/-- The lexemes say the item. Without a connective the clause cannot begin with a word
that would be taken for one, even if that word is a field. -/
inductive Spelled (schema : Schema) : Item → List Lexeme → Prop
  | joined {connective : Connective} {word : Lexeme} {clause : Clause}
      {lexemes : List Lexeme} (keyword : word.isKeyword connective.keyword = true)
      (said : clause.Spelled schema lexemes) :
      Spelled schema ⟨some connective, clause⟩ (word :: lexemes)
  | plain {first : Lexeme} {clause : Clause} {lexemes : List Lexeme}
      (noKeyword : ∀ connective : Connective, first.isKeyword connective.keyword = false)
      (said : clause.Spelled schema (first :: lexemes)) :
      Spelled schema ⟨none, clause⟩ (first :: lexemes)

/-- The lexemes say the items, one after the other. -/
inductive RowSpelled (schema : Schema) : List Item → List Lexeme → Prop
  | nil : RowSpelled schema [] []
  | cons {item : Item} {items : List Item} {lexemes more : List Lexeme}
      (said : item.Spelled schema lexemes) (later : RowSpelled schema items more) :
      RowSpelled schema (item :: items) (lexemes ++ more)

/-- The clauses of a row of items, each with the connective in force: the one written
before it, or else the one that was in force until then. -/
def connected (current : Connective) : List Item → List (Connective × Clause)
  | [] => []
  | item :: rest =>
    (item.written.getD current, item.clause) :: connected (item.written.getD current) rest

end Item

/-- An expression as it is written: a clause and the items after it. -/
structure Sentence where
  first : Clause
  items : List Item

namespace Sentence

/-- The lexemes say the sentence. -/
inductive Spelled (schema : Schema) : Sentence → List Lexeme → Prop
  | intro {first : Clause} {items : List Item} {lexemes more : List Lexeme}
      (said : first.Spelled schema lexemes) (later : Item.RowSpelled schema items more) :
      Spelled schema ⟨first, items⟩ (lexemes ++ more)

/-- The sentence with its connectives made explicit. The first one in force is `AND`. -/
def toExpression (s : Sentence) : Expression := ⟨s.first, Item.connected .and s.items⟩

/-- The clauses of a sentence. -/
def clauses (s : Sentence) : List Clause := s.first :: s.items.map Item.clause

/-- The text says the sentence. -/
def OfText (schema : Schema) (s : Sentence) (text : String) : Prop :=
  ∃ tokens, tokenize text = .ok tokens ∧ s.Spelled schema (tokens.map Token.lexeme)

end Sentence

end RecordFilter
