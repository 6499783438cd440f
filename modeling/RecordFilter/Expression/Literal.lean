import RecordFilter.Decimal.Numeral
import RecordFilter.Token.Basic
import RecordFilter.Value

/-!
# Literals

The value that a token stands for on the right-hand side of a clause. Where the kind of
the left-hand side is known the token must be a literal of that kind; otherwise its
spelling decides the kind.

## Main definitions

* `Kind.literal?`: the value of a token, for a known kind
* `Lexeme.literal?`: the value of a token, by its spelling
-/

namespace RecordFilter

/-- The truth value that a word spells, in any case. -/
def truthLiteral? (s : String) : Option Bool :=
  if s.toLower == "true" then some true
  else if s.toLower == "false" then some false
  else none

/-- The integer of the given kind that a numeral denotes. There is none if the numeral has
a fraction, if its integer is out of range, or if an unsigned kind meets a minus sign,
even that of zero. -/
def IntKind.literal? (k : IntKind) (n : Numeral) : Option Value :=
  if n.negative && !k.signed then none else n.toInt?.bind (Value.int? k)

/-- The value of the given kind that a token stands for. -/
def Kind.literal? (kind : Kind) (l : Lexeme) : Option Value :=
  match kind, l with
  | .int k, .number s => (Numeral.read? s.toList).bind k.literal?
  | .single, .number s => (Numeral.read? s.toList).map fun n => .single (.ofNumeral _ n)
  | .double, .number s => (Numeral.read? s.toList).map fun n => .double (.ofNumeral _ n)
  | .bool, .word s => (truthLiteral? s).map .bool
  | .text, .text s => some (.text s)
  | _, _ => none

/-- The value that a token stands for by its spelling. A number with a point has double
precision, any other is a signed integer of 64 bits. -/
def Lexeme.literal? : Lexeme → Option Value
  | .number s =>
    match Numeral.read? s.toList with
    | none => none
    | some n =>
      if n.fraction.isSome then some (.double (.ofNumeral _ n)) else IntKind.i64.literal? n
  | .text s => some (.text s)
  | .word s => (truthLiteral? s).map .bool
  | _ => none

/-- The value that a token stands for, given the kind if it is known. -/
def literal? (kind : Option Kind) (l : Lexeme) : Option Value :=
  match kind with
  | some kind => kind.literal? l
  | none => l.literal?

end RecordFilter
