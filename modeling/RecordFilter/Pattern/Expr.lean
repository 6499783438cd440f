import RecordFilter.Pattern.Settings

/-!
# Patterns as expressions

The structure of a regular expression: sets of characters, assertions about a position,
sequence, choice and repetition. Groups leave no trace here, and neither does the
preference between more and fewer repetitions: they do not change whether a text has a
match.

## Main definitions

* `Pattern.Expr`: regular expressions
* `Pattern.Expr.takesNothing`: expressions that match the empty text at most
-/

namespace RecordFilter.Pattern

/-- A regular expression. -/
inductive Expr where
  /-- Matches the empty text. -/
  | empty
  | set (s : CharSet)
  | assertion (a : Assertion)
  | sequence (first second : Expr)
  | choice (left right : Expr)
  /-- At least `least` repetitions, and at most `most` if there is a bound. -/
  | repeated (e : Expr) (least : Nat) (most : Option Nat)
  deriving DecidableEq, Repr

namespace Expr

/-- Expressions one after the other. -/
def sequenceOf (es : List Expr) : Expr := es.foldr sequence empty

/-- Whether an expression matches the empty text at most. -/
def takesNothing : Expr → Bool
  | empty | assertion _ => true
  | set _ => false
  | sequence a b | choice a b => a.takesNothing && b.takesNothing
  | repeated e _ most => e.takesNothing || most == some 0

end Expr

end RecordFilter.Pattern
