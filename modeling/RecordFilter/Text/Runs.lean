/-!
# Sets of code points as runs

A property of characters is stored as an increasing list of boundaries: the
numbers at even places open a run of code points that have the property, the
numbers at odd places are the first code points after it. A search stops at the
first boundary beyond the code point.

## Main definitions

* `Text.inRuns`: membership of a code point in a list of runs
* `Text.inAlternatingRuns`: the same for runs of which every second code point counts
-/

namespace RecordFilter.Text

/-- Whether `point` lies in one of the runs `[first, after)` that the boundaries
delimit. The boundaries are increasing, so the search ends early. -/
def inRuns : List Nat → Nat → Bool
  | first :: after :: rest, point =>
    if point < first then false
    else if point < after then true
    else inRuns rest point
  | _, _ => false

/-- Whether `point` lies in one of the runs, an even number of steps after its first. -/
def inAlternatingRuns : List Nat → Nat → Bool
  | first :: after :: rest, point =>
    if point < first then false
    else if point < after then (point - first) % 2 == 0
    else inAlternatingRuns rest point
  | _, _ => false

end RecordFilter.Text
