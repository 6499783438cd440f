import RecordFilter.Comparison
import RecordFilter.Text.Quoted

/-!
# Dialects

A dialect says how the parts of a condition are spelled: constants, operators, values and
lists. The structure of the text is the same in all of them.

## Main definitions

* `PrintError`: why a condition has no text
* `Dialect`, with `Dialect.value` and `Dialect.comparison`
* `Dialect.expression`: the spelling of filter expressions
* `Dialect.sqlite`: the spelling of a `WHERE` clause
-/

namespace RecordFilter

/-- Why a condition has no text. -/
inductive PrintError where
  /-- The condition asks for a failure, which has no text. -/
  | unprintable (message : String)
  /-- Constraints on the fields of a field's value. -/
  | nestedFields (field : String)
  /-- The dialect has no literal for the number. -/
  | nonFinite (value : String)
  deriving DecidableEq, Repr

/-- The wording of an error. -/
def PrintError.message : PrintError → String
  | unprintable message => s!"cannot print matcher: {message}"
  | nestedFields field => s!"struct matcher nested under field '{field}' cannot be printed"
  | nonFinite value => s!"non-finite number {value} has no SQL literal"

/-- The spelling of an output language. -/
structure Dialect where
  /-- The literal of a condition that is always true, or never. -/
  constant : Bool → String
  operator : Operator → String
  /-- The literal of a truth value. -/
  truth : Bool → String
  /-- The literal of a number, if it has one. -/
  number : {F : Binary.Format} → Binary F → Except PrintError String
  /-- The literal of a text or a pattern. -/
  quote : String → String
  /-- A list of literals. -/
  list : List String → String

/-- The name under which a condition on the record itself is written. -/
def recordName : String := "_"

namespace Dialect

/-- The literal of a value. -/
def value (d : Dialect) : Value → Except PrintError String
  | .int _ n _ => .ok (toString n)
  | .single x => d.number x
  | .double x => d.number x
  | .bool b => .ok (d.truth b)
  | .text s => .ok (d.quote s)

/-- The literals of some values, up to the first that has none. -/
def values (d : Dialect) : List Value → Except PrintError (List String)
  | [] => .ok []
  | v :: rest => do return (← d.value v) :: (← d.values rest)

/-- The text of a right-hand side. -/
def operand (d : Dialect) : Operand → Except PrintError String
  | .value v => d.value v
  | .set s => (d.values s.values).map d.list
  | .pattern p => .ok (d.quote p.source)
  | .reference field => .ok field

/-- The text of a comparison: the field, the operator and the right-hand side. -/
def comparison (d : Dialect) (field : Option String) (c : Comparison) :
    Except PrintError String :=
  (d.operand c.operand).map fun right =>
    field.getD recordName ++ " " ++ d.operator c.op ++ " " ++ right

/-- A number with a point, so that it is not taken for an integer. -/
def withPoint (cs : List Char) : List Char :=
  if cs.contains '.' then cs else cs ++ ['.', '0']

/-- The spelling of filter expressions. Numbers have the fewest digits that read back and
always a point, texts are quoted with backslashes, and the values of a list are separated
by blanks. -/
def expression : Dialect where
  constant b := if b then "TRUE" else "FALSE"
  operator := Operator.symbol
  truth b := if b then "true" else "false"
  number x := .ok (String.ofList (if x.isFinite then withPoint x.text else x.text))
  quote := Text.quoteEscaped
  list items := "[" ++ " ".intercalate items ++ "]"

/-- The number of places of a number in a `WHERE` clause. -/
def sqlPlaces : Nat := 4

/-- The spelling of a `WHERE` clause. Numbers have four places, truth values are numbers,
marks inside a text are doubled, and lists are tuples. -/
def sqlite : Dialect where
  constant b := if b then "1" else "0"
  operator
    | .isMatch => "REGEXP"
    | .notMatch => "NOT REGEXP"
    | op => op.symbol
  truth b := if b then "1" else "0"
  number x :=
    if x.isFinite then .ok (String.ofList (x.fixedText sqlPlaces))
    else .error (.nonFinite (String.ofList x.text))
  quote := Text.quoteDoubled
  list items := "(" ++ ", ".intercalate items ++ ")"

end Dialect

end RecordFilter
