import RecordFilter.Pattern.Escape

/-!
# Sets in brackets

A set in brackets lists characters, ranges and other sets. Two lists can be combined by
one of three operations, from left to right, and sets can be nested.

## Main definitions

* `Pattern.readBracket?`: reads a set after its opening bracket
-/

namespace RecordFilter.Pattern

/-- Reads a named set after its opening bracket: a colon, the name, a colon and the
closing bracket. A caret before the name takes the complement. -/
def readNamedSet? : List Char → Option (SetTerm × List Char)
  | ':' :: rest =>
    let (negated, rest) := match rest with
      | '^' :: rest => (true, rest)
      | rest => (false, rest)
    match rest.span (· != ':') with
    | (name, ':' :: ']' :: rest) =>
      (CharSet.ofName? (String.ofList name)).map fun set => (.named set negated, rest)
    | _ => none
  | _ => none

/-- A set whose closing bracket has not been read. -/
structure OpenSet where
  negated : Bool
  /-- What was read before the current list, and how it will be combined with it. -/
  combined : Option (SetTerm × SetOperation)
  /-- The terms of the current list, last first. -/
  terms : List SetTerm

namespace OpenSet

/-- Adds a term to the current list. -/
def push (s : OpenSet) (t : SetTerm) : OpenSet := { s with terms := t :: s.terms }

/-- All that was read so far. -/
def body (s : OpenSet) : SetTerm :=
  let list := SetTerm.ofRow s.terms.reverse
  match s.combined with
  | none => list
  | some (left, op) => .operation op left list

/-- Ends the current list with the sign of an operation. -/
def operate (s : OpenSet) (op : SetOperation) : OpenSet :=
  { s with combined := some (s.body, op), terms := [] }

/-- The set, once its closing bracket is read. -/
def close (s : OpenSet) : SetTerm := .bracket s.negated s.body

end OpenSet

/-- Reads what may stand right after an opening bracket: a caret for the complement, then
hyphens or else a closing bracket that stand for themselves. -/
def openSet (verbose : Bool) (cs : List Char) : OpenSet × List Char :=
  let (negated, cs) := match pastLayout verbose cs with
    | '^' :: rest => (true, pastLayout verbose rest)
    | cs => (false, cs)
  match spanLoose verbose (· == '-') cs with
  | ([], ']' :: rest) => (⟨negated, none, [.single ']']⟩, rest)
  | (hyphens, rest) => (⟨negated, none, hyphens.map .single⟩, rest)

/-- Reads one end of a range, or a set given by an escape. -/
def readMember? (verbose : Bool) : List Char → Option (Escape × List Char)
  | [] => none
  | '\\' :: rest => readEscape? verbose rest
  | c :: rest => some (.char c false, rest)

/-- Reads a range, a character or an escaped set inside brackets. A hyphen makes a range
unless the set ends after it or another hyphen follows. -/
def readRange? (verbose : Bool) (cs : List Char) : Option (SetTerm × List Char) := do
  let (first, rest) ← readMember? verbose cs
  match first, pastLayout verbose rest with
  | .anchor _, _ => none
  | .term t, '-' :: rest =>
    let next := peekPastLayout verbose rest
    if next == some ']' || next == some '-' then some (t, '-' :: rest) else none
  | .term t, rest => some (t, rest)
  | .char c _, '-' :: rest =>
    let next := peekPastLayout verbose rest
    if next == some ']' || next == some '-' then some (.single c, '-' :: rest)
    else
      match ← readMember? verbose (pastLayout verbose rest) with
      | (.char last _, rest) => if c ≤ last then some (.range c last, rest) else none
      | _ => none
  | .char c _, rest => some (.single c, rest)

/-- Reads the rest of a set, which may hold sets in brackets. Every step reads a character,
so as many steps as there are characters are enough. -/
def readMembers? (verbose : Bool) :
    Nat → OpenSet → List OpenSet → List Char → Option (SetTerm × List Char)
  | 0, _, _, _ => none
  | steps + 1, current, outer, cs =>
    match pastLayout verbose cs with
    | [] => none
    | ']' :: rest =>
      match outer with
      | [] => some (current.close, rest)
      | enclosing :: outer =>
        readMembers? verbose steps (enclosing.push current.close) outer rest
    | '[' :: rest =>
      match readNamedSet? rest with
      | some (t, rest) => readMembers? verbose steps (current.push t) outer rest
      | none =>
        -- not the name of a set, so the bracket opens a set inside this one
        let (nested, rest) := openSet verbose rest
        readMembers? verbose steps nested (current :: outer) rest
    | '&' :: '&' :: rest => readMembers? verbose steps (current.operate .intersection) outer rest
    | '-' :: '-' :: rest => readMembers? verbose steps (current.operate .difference) outer rest
    | '~' :: '~' :: rest =>
      readMembers? verbose steps (current.operate .symmetricDifference) outer rest
    | cs =>
      match readRange? verbose cs with
      | some (t, rest) => readMembers? verbose steps (current.push t) outer rest
      | none => none

/-- Reads a set after its opening bracket. -/
def readBracket? (verbose : Bool) (cs : List Char) : Option (SetTerm × List Char) :=
  let (current, rest) := openSet verbose cs
  readMembers? verbose (cs.length + 1) current [] rest

end RecordFilter.Pattern
