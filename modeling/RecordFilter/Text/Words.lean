import RecordFilter.Text.Letters

/-!
# Words

The characters that words are made of: letters, marks, decimal digits and connecting
punctuation of all scripts.

## Main definitions

* `Text.isWordChar`
* `Text.isAlphanumeric`
-/

namespace RecordFilter.Text

/-- The two characters that join or separate the letters around them. -/
def isJoiner (c : Char) : Bool := c == '\u200C' || c == '\u200D'

/-- Word characters. -/
def isWordChar (c : Char) : Bool :=
  isAlphabetic c || isMark c || Category.decimalDigit.contains c ||
    Category.connector.contains c || isJoiner c

/-- Letters and numbers of every kind. -/
def isAlphanumeric (c : Char) : Bool := isAlphabetic c || isNumber c

end RecordFilter.Text
