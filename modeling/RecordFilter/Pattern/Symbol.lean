import RecordFilter.Pattern.Bracket

/-!
# Symbols of a pattern

A pattern is first cut into symbols: literals, sets, anchors, marks of groups and choices,
and repetitions. Reading symbols settles everything that looks at more than one
character: escapes, bracketed sets, counts, the openings of groups, and layout.

## Main definitions

* `Pattern.Symbol`
* `Pattern.readSymbols?`: the symbols of a pattern, or nothing if some part is malformed
-/

namespace RecordFilter.Pattern

/-- How a group begins. -/
inductive Opening where
  /-- The group is remembered, possibly under a name. -/
  | captured (name : Option String)
  /-- The group has settings of its own. -/
  | plain (changes : Changes)
  deriving DecidableEq, Repr

/-- A symbol of a pattern. -/
inductive Symbol where
  | literal (c : Char) (byte : Bool)
  | dot
  | set (t : SetTerm)
  | anchor (a : Anchor)
  | opening (o : Opening)
  | closing
  | bar
  /-- The settings are changed from here to the end of the group. -/
  | settings (changes : Changes)
  | repetition (least : Nat) (most : Option Nat)
  deriving Repr

/-! ### Groups -/

/-- Whether a text can name a group. -/
def isGroupName : List Char → Bool
  | [] => false
  | c :: rest =>
    (c == '_' || Text.isAlphabetic c) &&
      rest.all fun c => Text.isAlphanumeric c || "_.[]".contains c

/-- Reads a group's name and the closing angle bracket. -/
def readGroupName? (cs : List Char) : Option (Symbol × List Char) :=
  match cs.span (· != '>') with
  | (name, _ :: rest) =>
    if isGroupName name then some (.opening (.captured (some (String.ofList name))), rest)
    else none
  | (_, []) => none

/-- Reads settings up to the colon that begins a group or to the parenthesis that ends the
change. Every setting is named once, and those after a hyphen are switched off. -/
def readChanges? (changes : Changes) (negated afterHyphen : Bool) :
    List Char → Option (Symbol × List Char)
  | [] => none
  | ':' :: rest => if afterHyphen then none else some (.opening (.plain changes), rest)
  | ')' :: rest =>
    if afterHyphen || changes.isEmpty then none else some (.settings changes, rest)
  | '-' :: rest => if negated then none else readChanges? changes true true rest
  | c :: rest =>
    match Setting.ofChar? c with
    | none => none
    | some setting =>
      if (changes.lookup setting).isSome then none
      else readChanges? (changes ++ [(setting, !negated)]) negated false rest

/-- Reads what follows an opening parenthesis. Looking around is not possible. -/
def readOpening? : List Char → Option (Symbol × List Char)
  | '?' :: '=' :: _ | '?' :: '!' :: _ | '?' :: '<' :: '=' :: _ | '?' :: '<' :: '!' :: _ => none
  | '?' :: 'P' :: '<' :: rest => readGroupName? rest
  | '?' :: '<' :: rest => readGroupName? rest
  | '?' :: rest => readChanges? [] false false rest
  | cs => some (.opening (.captured none), cs)

/-! ### Repetitions -/

/-- The greatest count of a repetition. -/
def greatestCount : Nat := Nat.pow 2 32 - 1

/-- The count that a row of digits denotes. -/
def count? (ds : List Char) : Option Nat :=
  if ds.isEmpty then none
  else
    let n := ds.foldl (fun n c => 10 * n + (c.toNat - '0'.toNat)) 0
    if n ≤ greatestCount then some n else none

/-- Reads a count, with any white space around it. -/
def readCount? (verbose : Bool) (cs : List Char) : Option (Nat × List Char) :=
  let (ds, rest) := spanLoose verbose Char.isDigit (cs.dropWhile Text.isBlank)
  (count? ds).map (·, (spanLoose verbose Text.isBlank rest).2)

/-- Reads the counts of a repetition after the opening brace. -/
def readCounts? (verbose : Bool) (cs : List Char) : Option (Symbol × List Char) := do
  match ← readCount? verbose (pastLayout verbose cs) with
  | (least, '\x7d' :: rest) => some (.repetition least (some least), pastLayout verbose rest)
  | (least, ',' :: rest) =>
    match pastLayout verbose rest with
    | '\x7d' :: rest => some (.repetition least none, pastLayout verbose rest)
    | rest =>
      match ← readCount? verbose rest with
      | (most, '\x7d' :: rest) =>
        if least ≤ most then some (.repetition least (some most), pastLayout verbose rest)
        else none
      | _ => none
  | _ => none

/-- Drops the question mark that makes a repetition prefer fewer rounds. -/
def dropPreference : Symbol × List Char → Symbol × List Char
  | (symbol, '?' :: rest) => (symbol, rest)
  | read => read

/-! ### All symbols -/

/-- Reads one symbol at a character that is no layout. -/
def readSymbol? (verbose : Bool) : List Char → Option (Symbol × List Char)
  | [] => none
  | c :: rest =>
    match c with
    | '.' => some (.dot, rest)
    | '^' => some (.anchor .lineStart, rest)
    | '$' => some (.anchor .lineEnd, rest)
    | '|' => some (.bar, rest)
    | ')' => some (.closing, rest)
    | '(' => readOpening? (pastLayout verbose rest)
    | '[' => (readBracket? verbose rest).map fun (t, rest) => (.set t, rest)
    | '*' => some (dropPreference (.repetition 0 none, rest))
    | '+' => some (dropPreference (.repetition 1 none, rest))
    | '?' => some (dropPreference (.repetition 0 (some 1), rest))
    | '\x7b' => (readCounts? verbose rest).map dropPreference
    | '\\' =>
      (readEscape? verbose rest).map fun
        | (.char c byte, rest) => (.literal c byte, rest)
        | (.term t, rest) => (.set t, rest)
        | (.anchor a, rest) => (.anchor a, rest)
    | c => some (.literal c false, rest)

/-- Whether the pattern is verbose after a symbol, and whether it will be again after each
of the groups that are open, innermost first. -/
def verboseAfter (verbose : Bool) (outer : List Bool) : Symbol → Bool × List Bool
  | .opening (.plain changes) => (changes.verbose verbose, verbose :: outer)
  | .opening (.captured _) => (verbose, verbose :: outer)
  | .settings changes => (changes.verbose verbose, outer)
  | .closing => (outer.headD verbose, outer.tail)
  | _ => (verbose, outer)

/-- Reads symbols to the end. Every symbol takes a character, so as many steps as there
are characters are enough. -/
def readSymbolsIn? (verbose : Bool) (outer : List Bool) : Nat → List Char → Option (List Symbol)
  | 0, cs => if (pastLayout verbose cs).isEmpty then some [] else none
  | steps + 1, cs =>
    match pastLayout verbose cs with
    | [] => some []
    | cs => do
      let (symbol, rest) ← readSymbol? verbose cs
      let (verbose, outer) := verboseAfter verbose outer symbol
      return symbol :: (← readSymbolsIn? verbose outer steps rest)

/-- The symbols of a pattern. -/
def readSymbols? (cs : List Char) : Option (List Symbol) :=
  readSymbolsIn? false [] cs.length cs

end RecordFilter.Pattern
