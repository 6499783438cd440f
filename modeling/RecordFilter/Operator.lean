/-!
# Operators

The ten operators of a comparison. They come in five complementary pairs, which is
what turns the negation of a comparison into another comparison.

## Main definitions

* `Operator`, with `Operator.complement`
* `Operator.holds`: what an operator says of the order of two values
* `Operator.code`, `Operator.symbol`: the two spellings

## Main results

* `Operator.complement_complement`: complementing twice changes nothing
* `Operator.holds_complement`: of two complementary scalar operators exactly one holds
-/

namespace RecordFilter

/-- An operator of a comparison: six that take a single value, two that take a list and
two that take a pattern. -/
inductive Operator where
  | lt | le | gt | ge | eq | ne | isIn | notIn | isMatch | notMatch
  deriving DecidableEq, Repr

namespace Operator

/-- The operators in the order in which they are listed. -/
def all : List Operator := [lt, le, gt, ge, eq, ne, isIn, notIn, isMatch, notMatch]

/-- The operator that holds exactly when this one does not. -/
def complement : Operator → Operator
  | eq => ne
  | ne => eq
  | lt => ge
  | ge => lt
  | le => gt
  | gt => le
  | isIn => notIn
  | notIn => isIn
  | isMatch => notMatch
  | notMatch => isMatch

/-- The operators that need an order. -/
def isOrdering : Operator → Bool
  | lt | le | gt | ge => true
  | _ => false

/-- The operators that take a list. -/
def isMembership : Operator → Bool
  | isIn | notIn => true
  | _ => false

/-- The operators that take a pattern. -/
def isPattern : Operator → Bool
  | isMatch | notMatch => true
  | _ => false

/-- The operators that take a single value: the ordering ones and the two equalities. -/
def isScalar (op : Operator) : Bool := !op.isMembership && !op.isPattern

/-- The operators defined as the negation of their complement. -/
def isNegative : Operator → Bool
  | ne | notIn | notMatch => true
  | _ => false

/-- What a scalar operator says of the order of two values, where `none` stands for two
values without an order. `gt` and `ge` are the negations of `le` and `lt`, so they hold
of two values without an order. The other operators say nothing. -/
def holds (op : Operator) (order : Option Ordering) : Bool :=
  let less := order == some .lt
  let equal := order == some .eq
  match op with
  | lt => less
  | le => less || equal
  | gt => !(less || equal)
  | ge => !less
  | eq => equal
  | ne => !equal
  | isIn | notIn | isMatch | notMatch => false

/-- The name of an operator in data. -/
def code : Operator → String
  | lt => "LT"
  | le => "LTE"
  | gt => "GT"
  | ge => "GTE"
  | eq => "EQ"
  | ne => "NEQ"
  | isIn => "IN"
  | notIn => "NOT_IN"
  | isMatch => "MATCH"
  | notMatch => "NOT_MATCH"

/-- The spelling of an operator in expressions. -/
def symbol : Operator → String
  | lt => "<"
  | le => "<="
  | gt => ">"
  | ge => ">="
  | eq => "="
  | ne => "!="
  | isIn => "IN"
  | notIn => "NOT IN"
  | isMatch => "MATCH"
  | notMatch => "NOT MATCH"

/-- The operator that a run of comparison characters spells. -/
def ofSymbol? : String → Option Operator
  | "=" => some eq
  | "!=" => some ne
  | "<" => some lt
  | "<=" => some le
  | ">" => some gt
  | ">=" => some ge
  | _ => none

/-- The operator with the given name in data. -/
def ofCode? (s : String) : Option Operator := all.find? (·.code == s)

theorem complement_complement (op : Operator) : op.complement.complement = op := by
  cases op <;> rfl

theorem complement_isScalar (op : Operator) : op.complement.isScalar = op.isScalar := by
  cases op <;> rfl

theorem complement_isOrdering (op : Operator) : op.complement.isOrdering = op.isOrdering := by
  cases op <;> rfl

theorem complement_isMembership (op : Operator) :
    op.complement.isMembership = op.isMembership := by
  cases op <;> rfl

theorem complement_isPattern (op : Operator) : op.complement.isPattern = op.isPattern := by
  cases op <;> rfl

/-- Of two complementary scalar operators exactly one holds, whatever the order. -/
theorem holds_complement {op : Operator} (scalar : op.isScalar = true)
    (order : Option Ordering) : op.complement.holds order = !op.holds order := by
  cases op <;> simp_all [isScalar, isMembership, isPattern, complement, holds]

theorem ofCode?_code (op : Operator) : ofCode? op.code = some op := by
  cases op <;> decide

/-- The symbols that can be read are those of the scalar operators. -/
theorem ofSymbol?_symbol {op : Operator} (scalar : op.isScalar = true) :
    ofSymbol? op.symbol = some op := by
  cases op <;> simp_all [isScalar, isMembership, isPattern, symbol, ofSymbol?]

end Operator

end RecordFilter
