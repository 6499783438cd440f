import RecordFilter.Condition.Basic
import RecordFilter.Printing.Dialect

/-!
# Printing conditions

The text of a condition is made of atoms, constants, parentheses and the connectives
`AND`, `OR` and `NOT`, where `AND` binds tighter than `OR`. A disjunction inside a
conjunction is in parentheses, and so is a conjunction inside a disjunction. Constraints
on fields form a conjunction in the order of names.

## Main definitions

* `Fragment`: the parts of a printed condition
* `Condition.fragments`: a condition as a row of fragments
* `Condition.print`: a condition as a text
* `Condition.describe`: a text for every condition, printable or not
-/

namespace RecordFilter

/-- A part of a printed condition. -/
inductive Fragment where
  | constant (b : Bool)
  /-- A comparison. -/
  | atom (text : String)
  | opening
  | closing
  | and
  | or
  | not
  deriving DecidableEq, Repr

/-- The text of a fragment, with the blanks that set it off. -/
def Fragment.text (d : Dialect) : Fragment → String
  | constant b => d.constant b
  | atom text => text
  | opening => "("
  | closing => ")"
  | and => " AND "
  | or => " OR "
  | not => "NOT "

/-- What a condition is printed inside of. -/
inductive Surrounding where
  | top
  | conj
  | disj
  deriving DecidableEq, Repr

/-- Fragments between parentheses. -/
def Fragment.enclose (fs : List Fragment) : List Fragment := opening :: fs ++ [closing]

namespace Condition

mutual

/-- The fragments of a condition. `field` is the field that the condition constrains, if
it is not about the record itself. -/
def fragments (d : Dialect) (field : Option String) (inside : Surrounding) :
    Condition → Except PrintError (List Fragment)
  | .always => .ok [.constant true]
  | .never => .ok [.constant false]
  | .comparison c => (d.comparison field c).map fun text => [.atom text]
  | .conj terms => do
    let body := [Fragment.and].intercalate (← termFragments d field .conj terms)
    return if inside = .disj then Fragment.enclose body else body
  | .disj terms => do
    let body := [Fragment.or].intercalate (← termFragments d field .disj terms)
    return if inside = .conj then Fragment.enclose body else body
  | .invert inner => do
    return Fragment.not :: Fragment.enclose (← inner.fragments d field .top)
  | .fields constraints =>
    match field with
    -- a field's value is a scalar, so constraints on its fields have no spelling
    | some outer => .error (.nestedFields outer)
    | none =>
      if constraints.isEmpty then .ok [.constant true]
      else do
        let body := [Fragment.and].intercalate (← constraintFragments d constraints)
        return if inside = .disj then Fragment.enclose body else body
  | .failure message => .error (.unprintable message)

/-- The fragments of each term. -/
def termFragments (d : Dialect) (field : Option String) (inside : Surrounding) :
    List Condition → Except PrintError (List (List Fragment))
  | [] => .ok []
  | t :: rest => do
    return (← t.fragments d field inside) :: (← termFragments d field inside rest)

/-- The fragments of each constraint. Constraints stand in a conjunction. -/
def constraintFragments (d : Dialect) :
    List (String × Condition) → Except PrintError (List (List Fragment))
  | [] => .ok []
  | (name, constraint) :: rest => do
    return (← constraint.fragments d (some name) .conj) :: (← constraintFragments d rest)

end

/-- The text of a condition in a dialect. -/
def print (d : Dialect) (c : Condition) : Except PrintError String :=
  (c.fragments d none .top).map fun fs => String.join (fs.map (Fragment.text d))

/-- The text of a condition as an expression, or a note that it has none. -/
def describe (c : Condition) : String :=
  match c.print .expression with
  | .ok text => text
  | .error e => "<unprintable: " ++ e.message ++ ">"

end Condition

end RecordFilter
