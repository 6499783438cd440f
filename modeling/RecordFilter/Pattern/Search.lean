import RecordFilter.Pattern.Expr

/-!
# Searching a text

Whether some part of a text matches an expression. An expression leads from a set of
positions to the set of positions at which a match from one of them can end. Sets are
carried through the expression as a whole, so the time of a search is bounded by the
sizes of the expression and of the text, whatever choices the expression leaves open.

## Main definitions

* `Pattern.Positions`: sets of positions
* `Pattern.Assertion.holds`: whether an assertion holds at a position
* `Pattern.Expr.reach`: the positions that an expression leads to
* `Pattern.Expr.occursIn`: whether a text has a match
-/

namespace RecordFilter.Pattern

/-- A set of positions, as a strictly increasing list. -/
abbrev Positions := List Nat

namespace Positions

/-- The union of two sets. -/
def union : Positions → Positions → Positions
  | [], ys => ys
  | x :: xs, [] => x :: xs
  | x :: xs, y :: ys =>
    if x < y then x :: union xs (y :: ys)
    else if y < x then y :: union (x :: xs) ys
    else x :: union xs ys

/-- The members of the first set that are not in the second. -/
def without : Positions → Positions → Positions
  | [], _ => []
  | x :: xs, [] => x :: xs
  | x :: xs, y :: ys =>
    if x < y then x :: without xs (y :: ys)
    else if y < x then without (x :: xs) ys
    else without xs ys

end Positions

/-- Whether the character at a position is a word character. There is none before the
beginning or after the end. -/
def isWordAt (ascii : Bool) (text : Array Char) (position : Nat) : Bool :=
  match text[position]? with
  | some c => if ascii then CharSet.asciiWords.contains c else Text.isWordChar c
  | none => false

/-- Whether the character before a position is a word character. -/
def isWordBefore (ascii : Bool) (text : Array Char) (position : Nat) : Bool :=
  match position with
  | 0 => false
  | before + 1 => isWordAt ascii text before

/-- Whether an assertion holds at a position. Where a carriage return ends a line, one with
a line feed after it ends a line together with it, and there is no line in between. -/
def Assertion.holds (text : Array Char) (position : Nat) (a : Assertion) : Bool :=
  let before := if position = 0 then none else text[position - 1]?
  let after := text[position]?
  match a with
  | textStart => position == 0
  | textEnd => position == text.size
  | lineStart carriageReturn =>
    before.isNone || before == some '\n' ||
      carriageReturn && before == some '\r' && after != some '\n'
  | lineEnd carriageReturn =>
    after.isNone || carriageReturn && after == some '\r' ||
      after == some '\n' && !(carriageReturn && before == some '\r')
  | edge e ascii => e.holds (isWordBefore ascii text position) (isWordAt ascii text position)

/-- Exactly `count` steps, or fewer once a step changes nothing. -/
def advance (step : Positions → Positions) : Nat → Positions → Positions
  | 0, positions => positions
  | count + 1, positions =>
    let next := step positions
    if next == positions then positions else advance step count next

/-- At most `count` steps from the positions in `fresh`, gathered into `seen`. Only
positions that were not seen before are followed. -/
def spread (step : Positions → Positions) : Nat → (seen fresh : Positions) → Positions
  | 0, seen, _ => seen
  | count + 1, seen, fresh =>
    if fresh.isEmpty then seen
    else
      -- a position that was seen before leads nowhere new
      let next := (step fresh).without seen
      spread step count (seen.union next) next

namespace Expr

/-- The positions at which a match that begins in `from` can end. A repetition without
an upper bound needs no more rounds than there are positions. -/
def reach (text : Array Char) : Expr → Positions → Positions
  | empty, origin => origin
  | set s, origin =>
    origin.filterMap fun position =>
      match text[position]? with
      | none => none
      | some c => if s.contains c then some (position + 1) else none
  | assertion a, origin => origin.filter fun position => a.holds text position
  | sequence first second, origin => second.reach text (first.reach text origin)
  | choice left right, origin => (left.reach text origin).union (right.reach text origin)
  | repeated e least most, origin =>
    let required := advance (e.reach text) least origin
    let optional := match most with
      | some most => most - least
      | none => text.size + 1
    spread (e.reach text) optional required required

/-- Whether some part of the text matches: a match may begin at any position. -/
def occursIn (e : Expr) (text : String) : Bool :=
  let cs := text.toList.toArray
  !(e.reach cs (List.range (cs.size + 1))).isEmpty

end Expr

end RecordFilter.Pattern
