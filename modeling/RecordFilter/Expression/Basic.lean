import RecordFilter.Condition.Basic

/-!
# Expressions

An expression is a row of clauses. There is no precedence: each clause is joined to all
that stands before it by the connective in force. A clause on a field is a constraint on
that field, a clause on the record itself is a bare comparison.

## Main definitions

* `Target`, `Clause`, `Connective`, `Expression`
* `Expression.toCondition`: the condition that an expression stands for
-/

namespace RecordFilter

/-- The left-hand side of a clause. -/
inductive Target where
  /-- The record itself, whatever its kind. -/
  | record
  | field (name : String) (kind : Kind)
  deriving DecidableEq, Repr

/-- The kind that values on the right-hand side must have, if it is known. -/
def Target.kind? : Target → Option Kind
  | record => none
  | field _ kind => some kind

/-- A comparison with its left-hand side. -/
structure Clause where
  target : Target
  comparison : Comparison
  deriving DecidableEq, Repr

/-- The condition that a clause stands for. -/
def Clause.toCondition (c : Clause) : Condition :=
  match c.target with
  | .record => .comparison c.comparison
  | .field name _ => .onField name (.comparison c.comparison)

/-- What joins a clause to the clauses before it. -/
inductive Connective where
  | and
  | or
  deriving DecidableEq, Repr

/-- Two conditions joined by a connective. -/
def Connective.join : Connective → Condition → Condition → Condition
  | and, a, b => .all [a, b]
  | or, a, b => .any [a, b]

/-- A row of clauses. Each but the first comes with the connective that joins it to the
clauses before it. -/
structure Expression where
  first : Clause
  rest : List (Connective × Clause)
  deriving DecidableEq, Repr

/-- The condition that an expression stands for: its clauses, joined from left to
right. -/
def Expression.toCondition (e : Expression) : Condition :=
  e.rest.foldl (fun c item => item.1.join c item.2.toCondition) e.first.toCondition

end RecordFilter
