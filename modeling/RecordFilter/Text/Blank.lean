import RecordFilter.Text.Runs

/-!
# White space

The characters that separate the tokens of an expression.

## Main definitions

* `Text.isBlank`: the Unicode property `White_Space`
* `Text.isGap`: what may stand between two tokens
-/

namespace RecordFilter.Text

/-- The runs of the Unicode property `White_Space`, 25 code points in all. -/
def blankRuns : List Nat :=
  [0x9, 0xE, 0x20, 0x21, 0x85, 0x86, 0xA0, 0xA1, 0x1680, 0x1681, 0x2000, 0x200B,
    0x2028, 0x202A, 0x202F, 0x2030, 0x205F, 0x2060, 0x3000, 0x3001]

/-- White space in the sense of Unicode. -/
def isBlank (c : Char) : Bool := inRuns blankRuns c.toNat

/-- Gaps between tokens consist of white space and commas. -/
def isGap (c : Char) : Bool := isBlank c || c == ','

end RecordFilter.Text
