import RecordFilter.Comparison
import RecordFilter.NameTable

/-!
# Conditions

A condition is a tree over comparisons. Its combinators simplify while they build:
conjunctions and disjunctions are flattened, the two constants are dropped or absorb the
rest, and the negation of a comparison is again a comparison. A tree that was built by
them is in a canonical form from the start.

## Main definitions

* `Condition`
* `Condition.all`, `Condition.any`: conjunction and disjunction of a list
* `Condition.negate`
* `Condition.compare?`, `Condition.isIn?`, …: comparisons as conditions
* `Condition.withField?`: adds a constraint on a field

## Main results

* `Condition.induction`: what holds of a tree if it holds of its parts
-/

namespace RecordFilter

/-- A condition on a record. -/
inductive Condition where
  /-- Holds of every record. -/
  | always
  /-- Holds of no record. -/
  | never
  | comparison (c : Comparison)
  /-- All terms hold. There are at least two. -/
  | conj (terms : List Condition)
  /-- Some term holds. There are at least two. -/
  | disj (terms : List Condition)
  /-- A negation that nothing absorbs. -/
  | invert (inner : Condition)
  /-- Every named field meets its constraint. The names are strictly increasing. -/
  | fields (constraints : List (String × Condition))
  /-- Fails on every record. -/
  | failure (message : String)
  deriving Repr

namespace Condition

/-- What holds of the leaves, and of a tree whenever it holds of the trees below it, holds
of every tree. -/
theorem induction {motive : Condition → Prop} (always : motive always) (never : motive never)
    (comparison : ∀ c, motive (comparison c))
    (conj : ∀ terms, (∀ t ∈ terms, motive t) → motive (conj terms))
    (disj : ∀ terms, (∀ t ∈ terms, motive t) → motive (disj terms))
    (invert : ∀ inner, motive inner → motive (invert inner))
    (fields : ∀ constraints, (∀ f ∈ constraints, motive f.2) → motive (fields constraints))
    (failure : ∀ message, motive (failure message)) (c : Condition) : motive c := by
  -- the recursor also passes through the lists of terms and of constraints
  refine Condition.rec (motive_1 := motive) (motive_2 := fun terms => ∀ t ∈ terms, motive t)
    (motive_3 := fun constraints => ∀ f ∈ constraints, motive f.2)
    (motive_4 := fun f => motive f.2) always never comparison conj disj invert fields failure
    ?_ ?_ ?_ ?_ ?_ c
  · exact fun _ member => absurd member List.not_mem_nil
  · intro head tail headHolds tailHolds t member
    rcases List.mem_cons.mp member with rfl | later
    · exact headHolds
    · exact tailHolds t later
  · exact fun _ member => absurd member List.not_mem_nil
  · intro head tail headHolds tailHolds f member
    rcases List.mem_cons.mp member with rfl | later
    · exact headHolds
    · exact tailHolds f later
  · exact fun _ _ holds => holds

/-! ### Combinators -/

/-- The terms of a conjunction, one level flattened and without `always`; nothing if some
operand is `never`. -/
def conjTerms? : List Condition → Option (List Condition)
  | [] => some []
  | .always :: rest => conjTerms? rest
  | .never :: _ => none
  | .conj terms :: rest => (conjTerms? rest).map (terms ++ ·)
  | c :: rest => (conjTerms? rest).map (c :: ·)

/-- The terms of a disjunction, one level flattened and without `never`; nothing if some
operand is `always`. -/
def disjTerms? : List Condition → Option (List Condition)
  | [] => some []
  | .never :: rest => disjTerms? rest
  | .always :: _ => none
  | .disj terms :: rest => (disjTerms? rest).map (terms ++ ·)
  | c :: rest => (disjTerms? rest).map (c :: ·)

/-- The conjunction of some conditions. -/
def all (conditions : List Condition) : Condition :=
  match conjTerms? conditions with
  | none => .never
  | some [] => .always
  | some [c] => c
  | some terms => .conj terms

/-- The disjunction of some conditions. -/
def any (conditions : List Condition) : Condition :=
  match disjTerms? conditions with
  | none => .always
  | some [] => .never
  | some [c] => c
  | some terms => .disj terms

/-- The negation of a condition. It is not pushed through conjunctions and
disjunctions. -/
def negate : Condition → Condition
  | .always => .never
  | .never => .always
  | .invert inner => inner
  | .comparison c => .comparison c.complement
  | c => .invert c

instance : AndOp Condition := ⟨fun a b => all [a, b]⟩

instance : OrOp Condition := ⟨fun a b => any [a, b]⟩

instance : Complement Condition := ⟨negate⟩

/-! ### Comparisons as conditions -/

/-- The comparison of a scalar operator. -/
def scalar (op : Operator) (operand : ScalarOperand) : Condition :=
  .comparison ⟨op, operand.toOperand⟩

/-- The comparison of an operator that is chosen at run time. Operators for lists and
patterns are refused. -/
def compare? (op : Operator) (operand : ScalarOperand) : Except EvalError Condition :=
  if op.isScalar then .ok (scalar op operand) else .error (.notScalarOperator op)

def eq (operand : ScalarOperand) : Condition := scalar .eq operand

def ne (operand : ScalarOperand) : Condition := scalar .ne operand

def lt (operand : ScalarOperand) : Condition := scalar .lt operand

def le (operand : ScalarOperand) : Condition := scalar .le operand

def gt (operand : ScalarOperand) : Condition := scalar .gt operand

def ge (operand : ScalarOperand) : Condition := scalar .ge operand

/-- Membership, or its absence, in a list whose values may turn out to be of different
kinds. -/
def membership? (op : Operator) (values : List Value) : Except EvalError Condition :=
  (ValueSet.ofValues values).map fun s => .comparison ⟨op, .set s⟩

/-- Membership in a list. -/
def isIn? (values : List Value) : Except EvalError Condition := membership? .isIn values

/-- Absence from a list. -/
def notIn? (values : List Value) : Except EvalError Condition := membership? .notIn values

/-- Membership in a list of values of one scalar type. -/
def isIn {α : Type} [Scalar α] (members : List α) : Condition :=
  .comparison ⟨.isIn, .set (ValueSet.ofScalars members)⟩

/-- Absence from a list of values of one scalar type. -/
def notIn {α : Type} [Scalar α] (members : List α) : Condition :=
  .comparison ⟨.notIn, .set (ValueSet.ofScalars members)⟩

/-- The text has a part that matches the pattern. -/
def isMatch (source : String) : Condition := .comparison ⟨.isMatch, .pattern ⟨source⟩⟩

/-- The text has no part that matches the pattern. -/
def notMatch (source : String) : Condition := .comparison ⟨.notMatch, .pattern ⟨source⟩⟩

/-! ### Constraints on fields -/

/-- The condition that a field of the record meets a constraint. -/
def onField (name : String) (constraint : Condition) : Condition :=
  .fields [(name, constraint)]

/-- The condition with the given constraints; of two for one field the later counts. -/
def ofFields (constraints : List (String × Condition)) : Condition :=
  .fields (NameTable.ofList constraints)

/-- Adds a constraint on a field, or replaces the one it has. Other conditions than
constraints on fields take none. -/
def withField? (c : Condition) (name : String) (constraint : Condition) : Option Condition :=
  match c with
  | .fields constraints => some (.fields (NameTable.insert name constraint constraints))
  | _ => none

end Condition

end RecordFilter
