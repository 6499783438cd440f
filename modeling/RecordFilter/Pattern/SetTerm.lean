import RecordFilter.Pattern.Settings

/-!
# Sets of characters as they are written

Inside brackets a pattern lists characters, ranges and other sets. Which characters these
stand for depends on the settings: case is folded before a complement is taken and before
two sets are combined, and outside of Unicode a set must stay within ASCII.

## Main definitions

* `Pattern.SetTerm`: a set as it is written
* `Pattern.SetTerm.resolve?`: the set that a term stands for
* `Pattern.SetTerm.depth`: how deeply brackets and operations are nested
-/

namespace RecordFilter.Pattern

/-- The sets that have an escape of their own. -/
inductive Shorthand where
  | digits | blanks | words
  deriving DecidableEq, Repr

/-- The set that a shorthand stands for. -/
def Shorthand.set (unicode : Bool) : Shorthand → CharSet
  | digits => if unicode then .category .decimalDigit else .asciiDigits
  | blanks => if unicode then .blanks else .asciiBlanks
  | words => if unicode then .words else .asciiWords

/-- The operations that combine two sets. -/
inductive SetOperation where
  | intersection | difference | symmetricDifference
  deriving DecidableEq, Repr

/-- Combines two sets. -/
def SetOperation.combine : SetOperation → CharSet → CharSet → CharSet
  | intersection => CharSet.intersection
  | difference => CharSet.difference
  | symmetricDifference => CharSet.symmetricDifference

/-- A set as it is written. -/
inductive SetTerm where
  | range (first last : Char)
  /-- A named set of ASCII characters. -/
  | named (set : CharSet) (negated : Bool)
  | shorthand (k : Shorthand) (negated : Bool)
  /-- The characters with a property that Unicode gives them. -/
  | property (set : CharSet) (negated : Bool)
  | bracket (negated : Bool) (body : SetTerm)
  /-- The members of all terms of a row. -/
  | row (terms : List SetTerm)
  | operation (op : SetOperation) (left right : SetTerm)
  deriving Repr

namespace SetTerm

/-- The term for one character. -/
def single (c : Char) : SetTerm := range c c

/-- A row of terms. A row of one is the term itself. -/
def ofRow : List SetTerm → SetTerm
  | [t] => t
  | terms => row terms

mutual

/-- The set that a term stands for. Outside of Unicode a set that leaves ASCII has no
meaning, and every complement does. -/
def resolve? (s : Settings) : SetTerm → Option CharSet
  | range first last =>
    if s.unicode || last.toNat < 128 then some (.range first last) else none
  | named set negated =>
    if s.unicode || !negated then some ((s.foldCase set).negatedIf negated) else none
  | shorthand k negated =>
    if s.unicode || !negated then some ((k.set s.unicode).negatedIf negated) else none
  | property set negated =>
    if s.unicode then some ((s.foldCase set).negatedIf negated) else none
  | bracket negated body =>
    if s.unicode || !negated then
      (body.resolve? s).map fun set => (s.foldCase set).negatedIf negated
    else none
  | row terms => (resolveRow? s terms).map .unions
  | operation op left right =>
    match left.resolve? s, right.resolve? s with
    | some left, some right => some (op.combine (s.foldCase left) (s.foldCase right))
    | _, _ => none

/-- The sets that the terms of a row stand for. -/
def resolveRow? (s : Settings) : List SetTerm → Option (List CharSet)
  | [] => some []
  | t :: terms =>
    match t.resolve? s, resolveRow? s terms with
    | some set, some sets => some (set :: sets)
    | _, _ => none

end

mutual

/-- How deeply brackets, rows and operations are nested. -/
def depth : SetTerm → Nat
  | bracket _ body => body.depth + 1
  | row terms => if terms.isEmpty then 0 else rowDepth terms + 1
  | operation _ left right => max left.depth right.depth + 1
  | _ => 0

/-- The greatest depth in a row. -/
def rowDepth : List SetTerm → Nat
  | [] => 0
  | t :: terms => max t.depth (rowDepth terms)

end

end SetTerm

end RecordFilter.Pattern
