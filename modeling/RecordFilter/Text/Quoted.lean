/-!
# Quoted text

Two ways to put any text between quotation marks so that it can be read back: a backslash
before every mark and backslash, or every mark written twice.

## Main definitions

* `Text.quoteEscaped`: double marks, with backslashes
* `Text.quoteDoubled`: single marks, with marks written twice
-/

namespace RecordFilter.Text

/-- The characters of a text with a backslash before each double mark and backslash. -/
def escapeMarks : List Char → List Char
  | [] => []
  | c :: rest => if c = '"' ∨ c = '\\' then '\\' :: c :: escapeMarks rest else c :: escapeMarks rest

/-- A text between double marks. A backslash makes the next character stand for itself. -/
def quoteEscaped (s : String) : String := String.ofList ('"' :: escapeMarks s.toList ++ ['"'])

/-- The characters of a text with each single mark written twice. -/
def doubleMarks : List Char → List Char
  | [] => []
  | c :: rest => if c = '\'' then '\'' :: '\'' :: doubleMarks rest else c :: doubleMarks rest

/-- A text between single marks. A mark written twice stands for one. -/
def quoteDoubled (s : String) : String := String.ofList ('\'' :: doubleMarks s.toList ++ ['\''])

end RecordFilter.Text
