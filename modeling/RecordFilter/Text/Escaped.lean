import RecordFilter.Text.Category

/-!
# Text quoted in messages

Messages cite characters and strings in a quoted form in which every character
that does not show on its own is escaped. The letters `0`, `t`, `r`, `n` and the
backslash have short escapes; any other hidden character is written as its code
point in hexadecimal.

## Main definitions

* `Text.isHidden`: the characters written as their code point
* `Text.citeString`, `Text.citeChar`: the quoted forms
-/

namespace RecordFilter.Text

/-- The runs of characters that extend the one before them, apart from marks that take no
space. -/
def otherExtenderRuns : List Nat :=
  [0x9BE, 0x9BF, 0x9D7, 0x9D8, 0xB3E, 0xB3F, 0xB57, 0xB58, 0xBBE, 0xBBF, 0xBD7, 0xBD8, 0xCC2,
   0xCC3, 0xCD5, 0xCD7, 0xD3E, 0xD3F, 0xD57, 0xD58, 0xDCF, 0xDD0, 0xDDF, 0xDE0, 0x1B35, 0x1B36,
   0x200C, 0x200D, 0x302E, 0x3030, 0xFF9E, 0xFFA0, 0x1133E, 0x1133F, 0x11357, 0x11358, 0x114B0,
   0x114B1, 0x114BD, 0x114BE, 0x115AF, 0x115B0, 0x11930, 0x11931, 0x1D165, 0x1D166, 0x1D16E,
   0x1D173, 0xE0020, 0xE0080]

/-- The categories whose characters leave no mark of their own on the page. -/
def hiddenCategories : List Category :=
  [.control, .format, .privateUse, .unassigned, .spaceSeparator, .lineSeparator,
    .paragraphSeparator, .nonspacingMark, .enclosingMark]

/-- Characters that a quoted text shows by their code point. The space is the one
separator that is not hidden. -/
def isHidden (c : Char) : Bool :=
  c != ' ' && (hiddenCategories.any (·.contains c) || inRuns otherExtenderRuns c.toNat)

/-- The code point of `c` in braces, in lowercase hexadecimal without padding. -/
def codePointEscape (c : Char) : List Char :=
  ['\\', 'u', '\x7b'] ++ Nat.toDigits 16 c.toNat ++ ['\x7d']

/-- One character inside the quotation mark `mark`. Only that mark is escaped; the
other one stands for itself. -/
def citeCharIn (mark : Char) (c : Char) : List Char :=
  if c = '\x00' then ['\\', '0']
  else if c = '\t' then ['\\', 't']
  else if c = '\r' then ['\\', 'r']
  else if c = '\n' then ['\\', 'n']
  else if c = '\\' then ['\\', '\\']
  else if c = mark then ['\\', mark]
  else if isHidden c then codePointEscape c
  else [c]

/-- A string as messages cite it, between double quotation marks. -/
def citeString (s : String) : String :=
  String.ofList ('"' :: s.toList.flatMap (citeCharIn '"') ++ ['"'])

/-- A character as messages cite it, between single quotation marks. -/
def citeChar (c : Char) : String :=
  String.ofList ('\'' :: citeCharIn '\'' c ++ ['\''])

end RecordFilter.Text
