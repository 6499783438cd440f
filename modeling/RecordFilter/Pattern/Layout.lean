import RecordFilter.Text.Blank

/-!
# Layout of a pattern

A verbose pattern may hold white space and comments wherever a new part could begin, and
inside of numbers and names. They are skipped. In any other pattern they are characters
like all others.

## Main definitions

* `Pattern.pastLayout`: a text without the layout at its beginning
* `Pattern.spanLoose`: the longest row of characters of a class, with layout between them
-/

namespace RecordFilter.Pattern

/-- Drops white space and comments. A comment begins with a number sign and ends with the
line. -/
def dropLayout (inComment : Bool) : List Char → List Char
  | [] => []
  | c :: rest =>
    if inComment then dropLayout (c != '\n') rest
    else if Text.isBlank c then dropLayout false rest
    else if c == '#' then dropLayout true rest
    else c :: rest

/-- Drops the layout at the beginning, if the pattern is verbose. -/
def pastLayout (verbose : Bool) (cs : List Char) : List Char :=
  if verbose then dropLayout false cs else cs

/-- The first characters with `p`, at most `count` of them, and what follows them. Layout is
skipped after each. -/
def takeLoose (verbose : Bool) (p : Char → Bool) : Nat → List Char → List Char × List Char
  | count + 1, c :: rest =>
    if p c then
      let (taken, rest) := takeLoose verbose p count (pastLayout verbose rest)
      (c :: taken, rest)
    else ([], c :: rest)
  | _, cs => ([], cs)

/-- All first characters with `p`, and what follows them. -/
def spanLoose (verbose : Bool) (p : Char → Bool) (cs : List Char) : List Char × List Char :=
  takeLoose verbose p cs.length cs

/-- The character after the layout at the beginning of a text. A number sign is not taken
for the beginning of a comment here, but passed over, and if only layout is left its first
character is given. -/
def peekPastLayout (verbose : Bool) (cs : List Char) : Option Char :=
  if !verbose then cs.head?
  else
    let rest := match cs.dropWhile Text.isBlank with
      | '#' :: rest => rest.dropWhile Text.isBlank
      | rest => rest
    rest.head?.or cs.head?

end RecordFilter.Pattern
