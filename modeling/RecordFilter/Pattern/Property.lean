import RecordFilter.CharSet
import RecordFilter.Text.Script

/-!
# Properties by name

A pattern can name a general category, a script or one of a few other properties. Names
are read without regard to case, spaces, hyphens and low lines, and may begin with `is`. A
property that has values is named with its value, after a colon or a sign of equality.

## Main definitions

* `Pattern.propertyKey`: what counts of a name
* `Pattern.property?`: the characters with the property that a text names
-/

namespace RecordFilter.Pattern

/-- Whether a character counts in the name of a property. -/
def countsInName (c : Char) : Bool :=
  c.toNat < 128 && c != ' ' && c != '-' && c != '_'

/-- What counts of a name. A leading `is` does not, except in `isc`, which is a name of
its own. -/
def propertyKey (name : List Char) : String :=
  match name with
  | a :: b :: rest =>
    if a.toLower == 'i' && b.toLower == 's' then
      let key := (rest.filter countsInName).map Char.toLower
      if key = ['c'] then "isc" else String.ofList key
    else String.ofList ((name.filter countsInName).map Char.toLower)
  | _ => String.ofList ((name.filter countsInName).map Char.toLower)

/-- The union of some categories. -/
def ofCategories (ks : List Text.Category) : CharSet := .unions (ks.map .category)

/-- The categories of letters that have a case. -/
def casedLetters : List Text.Category := [.upper, .lower, .title]

/-- The categories of letters. -/
def letters : List Text.Category := casedLetters ++ [.modifierLetter, .otherLetter]

/-- The general categories, unions of categories included. -/
def category? : String → Option CharSet
  | "any" => some .full
  | "assigned" => some (.complement (.category .unassigned))
  | "ascii" => some (.range '\x00' '\x7F')
  | "lu" | "uppercaseletter" => some (.category .upper)
  | "ll" | "lowercaseletter" => some (.category .lower)
  | "lt" | "titlecaseletter" => some (.category .title)
  | "lc" | "casedletter" => some (ofCategories casedLetters)
  | "lm" | "modifierletter" => some (.category .modifierLetter)
  | "lo" | "otherletter" => some (.category .otherLetter)
  | "l" | "letter" => some (ofCategories letters)
  | "mn" | "nonspacingmark" => some (.category .nonspacingMark)
  | "mc" | "spacingmark" => some (.category .spacingMark)
  | "me" | "enclosingmark" => some (.category .enclosingMark)
  | "m" | "mark" | "combiningmark" =>
    some (ofCategories [.nonspacingMark, .spacingMark, .enclosingMark])
  | "nd" | "decimalnumber" | "digit" => some (.category .decimalDigit)
  | "nl" | "letternumber" => some (.category .letterNumber)
  | "no" | "othernumber" => some (.category .otherNumber)
  | "n" | "number" => some (ofCategories [.decimalDigit, .letterNumber, .otherNumber])
  | "pc" | "connectorpunctuation" => some (.category .connector)
  | "pd" | "dashpunctuation" => some (.category .dash)
  | "ps" | "openpunctuation" => some (.category .opening)
  | "pe" | "closepunctuation" => some (.category .closing)
  | "pi" | "initialpunctuation" => some (.category .initialQuote)
  | "pf" | "finalpunctuation" => some (.category .finalQuote)
  | "po" | "otherpunctuation" => some (.category .otherPunctuation)
  | "p" | "punctuation" | "punct" =>
    some (ofCategories
      [.connector, .dash, .opening, .closing, .initialQuote, .finalQuote, .otherPunctuation])
  | "sm" | "mathsymbol" => some (.category .mathSymbol)
  | "sc" | "currencysymbol" => some (.category .currency)
  | "sk" | "modifiersymbol" => some (.category .modifierSymbol)
  | "so" | "othersymbol" => some (.category .otherSymbol)
  | "s" | "symbol" => some (ofCategories [.mathSymbol, .currency, .modifierSymbol, .otherSymbol])
  | "zs" | "spaceseparator" => some (.category .spaceSeparator)
  | "zl" | "lineseparator" => some (.category .lineSeparator)
  | "zp" | "paragraphseparator" => some (.category .paragraphSeparator)
  | "z" | "separator" =>
    some (ofCategories [.spaceSeparator, .lineSeparator, .paragraphSeparator])
  | "cc" | "control" | "cntrl" => some (.category .control)
  | "cf" | "format" => some (.category .format)
  | "cn" | "unassigned" => some (.category .unassigned)
  | "co" | "privateuse" => some (.category .privateUse)
  | "c" | "other" => some (ofCategories [.control, .format, .unassigned, .privateUse])
  | _ => none

/-- The properties that a character has or has not. -/
def binaryProperty? : String → Option CharSet
  | "alphabetic" | "alpha" => some .alphabetic
  | "uppercase" | "upper" => some .uppercase
  | "lowercase" | "lower" => some .lowercase
  | "whitespace" | "wspace" | "space" => some .blanks
  | "xidstart" | "xids" => some .identifierStart
  | "xidcontinue" | "xidc" => some .identifierRest
  | "joincontrol" | "joinc" => some (.range '\u200C' '\u200D')
  | "asciihexdigit" | "ahex" => CharSet.ofName? "xdigit"
  | "hexdigit" | "hex" =>
    some (.unions [.range '0' '9', .range 'A' 'F', .range 'a' 'f', .range '\uFF10' '\uFF19',
      .range '\uFF21' '\uFF26', .range '\uFF41' '\uFF46'])
  | _ => none

/-- The characters of the script with a name. -/
def script? (key : String) : Option CharSet := (Text.Script.ofName? key).map (.runs ·.runs)

/-- Splits a text at the first place where `mark` stands, without the mark. -/
def splitAt? (mark : List Char) : List Char → Option (List Char × List Char)
  | [] => none
  | c :: rest =>
    if mark.isPrefixOf (c :: rest) then some ([], (c :: rest).drop mark.length)
    else (splitAt? mark rest).map fun (before, after) => (c :: before, after)

/-- The characters that have a value of a property. -/
def propertyValue? (property value : String) : Option CharSet :=
  match property with
  | "gc" | "generalcategory" => category? value
  | "sc" | "script" => script? value
  | _ => none

/-- The characters with the property that a text names. Whether the value is said to be
equal or not to be equal makes no difference. -/
def property? (text : List Char) : Option CharSet :=
  match ((splitAt? ['!', '='] text).or (splitAt? [':'] text)).or (splitAt? ['='] text) with
  | some (property, value) => propertyValue? (propertyKey property) (propertyKey value)
  | none =>
    let key := propertyKey text
    ((binaryProperty? key).or (category? key)).or (script? key)

end RecordFilter.Pattern
