import RecordFilter.Text.Blank
import RecordFilter.Text.CaseFolding
import RecordFilter.Text.Words

/-!
# Sets of characters

Sets are kept as they were put together, so that complements and intersections need no
computation. Membership is decided for one character at a time.

## Main definitions

* `CharSet`, with `CharSet.contains`
* `CharSet.difference`, `CharSet.unions`: derived operations
* `CharSet.foldCase`: a set without regard to case
* `CharSet.ofName?`: the named sets of ASCII characters

## Main results

* `CharSet.contains_difference`, `CharSet.contains_unions`: what the derived operations mean
-/

namespace RecordFilter

/-- A set of characters. -/
inductive CharSet where
  | empty
  /-- All characters from `first` to `last`. -/
  | range (first last : Char)
  /-- The characters whose code points lie in the runs between the boundaries. -/
  | runs (boundaries : List Nat)
  | category (k : Text.Category)
  | blanks
  | words
  | alphabetic
  | uppercase
  | lowercase
  | identifierStart
  | identifierRest
  | complement (s : CharSet)
  | union (s t : CharSet)
  | intersection (s t : CharSet)
  /-- The members of one of two sets that are not in the other. -/
  | symmetricDifference (s t : CharSet)
  /-- The members and all characters that differ from one in case. Without `unicode` only
  ASCII letters have a case. -/
  | caseless (unicode : Bool) (s : CharSet)
  deriving DecidableEq, Repr

namespace CharSet

/-- The characters that differ from `c` in case at most. -/
def caseVariants (unicode : Bool) (c : Char) : List Char :=
  if unicode then Text.caseVariants c else [c, if c.isUpper then c.toLower else c.toUpper]

/-- Membership in a set. -/
def contains : CharSet → Char → Bool
  | empty, _ => false
  | range first last, c => first ≤ c && c ≤ last
  | runs boundaries, c => Text.inRuns boundaries c.toNat
  | category k, c => k.contains c
  | blanks, c => Text.isBlank c
  | words, c => Text.isWordChar c
  | alphabetic, c => Text.isAlphabetic c
  | uppercase, c => Text.isUppercase c
  | lowercase, c => Text.isLowercase c
  | identifierStart, c => Text.startsIdentifier c
  | identifierRest, c => Text.continuesIdentifier c
  | complement s, c => !s.contains c
  | union s t, c => s.contains c || t.contains c
  | intersection s t, c => s.contains c && t.contains c
  | symmetricDifference s t, c => s.contains c ^^ t.contains c
  | caseless unicode s, c => (caseVariants unicode c).any s.contains

/-- The set with one member. -/
def single (c : Char) : CharSet := range c c

/-- All characters. -/
def full : CharSet := complement empty

/-- The union of some sets. -/
def unions (sets : List CharSet) : CharSet := sets.foldr union empty

/-- The members of `s` that are not in `t`. -/
def difference (s t : CharSet) : CharSet := intersection s (complement t)

/-- The set itself or its complement. -/
def negatedIf (negated : Bool) (s : CharSet) : CharSet := if negated then complement s else s

theorem contains_difference (s t : CharSet) (c : Char) :
    (s.difference t).contains c = (s.contains c && !t.contains c) := rfl

theorem contains_unions (sets : List CharSet) (c : Char) :
    (unions sets).contains c = sets.any (·.contains c) := by
  induction sets with
  | nil => rfl
  | cons s sets ih =>
    have step : (unions (s :: sets)).contains c = (s.contains c || (unions sets).contains c) := rfl
    rw [step, ih, List.any_cons]

/-- Whether a set is known to contain the other cases of its members. -/
def isCaseless : CharSet → Bool
  | empty | caseless _ _ => true
  | complement s => s.isCaseless
  | union s t | intersection s t | symmetricDifference s t => s.isCaseless && t.isCaseless
  | _ => false

/-- The members of a set and all characters that differ from one in case. Folding goes into
the parts of a union and leaves alone what is folded, so it can be repeated at no cost. -/
def foldCase (unicode : Bool) : CharSet → CharSet
  | union s t => union (s.foldCase unicode) (t.foldCase unicode)
  | s => if s.isCaseless then s else caseless unicode s

/-- The decimal digits of ASCII. -/
def asciiDigits : CharSet := range '0' '9'

/-- White space of ASCII. -/
def asciiBlanks : CharSet := unions [range '\t' '\r', single ' ']

/-- Word characters of ASCII. -/
def asciiWords : CharSet := unions [range '0' '9', range 'A' 'Z', single '_', range 'a' 'z']

/-- The sets of ASCII characters that have a name. -/
def ofName? : String → Option CharSet
  | "alnum" => some (unions [range '0' '9', range 'A' 'Z', range 'a' 'z'])
  | "alpha" => some (unions [range 'A' 'Z', range 'a' 'z'])
  | "ascii" => some (range '\x00' '\x7F')
  | "blank" => some (unions [single '\t', single ' '])
  | "cntrl" => some (unions [range '\x00' '\x1F', single '\x7F'])
  | "digit" => some asciiDigits
  | "graph" => some (range '!' '~')
  | "lower" => some (range 'a' 'z')
  | "print" => some (range ' ' '~')
  | "punct" => some (unions [range '!' '/', range ':' '@', range '[' '\x60', range '\x7b' '~'])
  | "space" => some asciiBlanks
  | "upper" => some (range 'A' 'Z')
  | "word" => some asciiWords
  | "xdigit" => some (unions [range '0' '9', range 'A' 'F', range 'a' 'f'])
  | _ => none

/-- How much room a set takes, roughly: a little for a run of ASCII characters, more for a
run of others. -/
def weight : CharSet → Nat
  | empty => 0
  | range _ last => if last.toNat < 128 then 8 else 96
  | runs boundaries => 32 * boundaries.length
  | category k => 32 * k.runs.length
  | blanks => 640
  | words | alphabetic | uppercase | lowercase | identifierStart | identifierRest => 48000
  | complement s => 512 + s.weight
  | union s t | intersection s t | symmetricDifference s t => s.weight + t.weight
  -- large sets contain the other cases of most of their members
  | caseless _ s => s.weight + min s.weight 1024

end CharSet

end RecordFilter
