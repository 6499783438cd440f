import RecordFilter.Schema.Codec
import RecordFilter.Text.Hexadecimal

/-!
# Schemas as documents

A schema is written as a JSON object that gives each field the name of its kind, compact
and in the order of the names. A document may have its fields in any order, with blanks
between its parts; of a field given twice the later kind counts. A kind may also be
written as an object with its name as the one key, and no content.

## Main definitions

* `Schema.Document.codec`: the codec of such objects
* `Schema.toDocument`: the text of a schema
* `Schema.ofDocument?`: the schema that a text describes
-/

namespace RecordFilter

namespace Schema.Document

/-! ### Writing -/

/-- A character inside the marks of a JSON string. -/
def writeChar (c : Char) : List Char :=
  match c with
  | '"' => ['\\', '"']
  | '\\' => ['\\', '\\']
  | '\n' => ['\\', 'n']
  | '\r' => ['\\', 'r']
  | '\t' => ['\\', 't']
  | '\x08' => ['\\', 'b']
  | '\x0C' => ['\\', 'f']
  | c =>
    if c.toNat < 0x20 then ['\\', 'u'] ++ (Nat.toDigits 16 c.toNat).leftpad 4 '0' else [c]

/-- A JSON string. -/
def writeString (s : String) : List Char := '"' :: s.toList.flatMap writeChar ++ ['"']

/-- A field and the name of its kind. -/
def writeField (field : String × String) : List Char :=
  writeString field.1 ++ ':' :: writeString field.2

/-- An object of such fields. -/
def write (fields : List (String × String)) : List Char :=
  '\x7b' :: [','].intercalate (fields.map writeField) ++ ['\x7d']

/-! ### Reading -/

/-- The characters that may stand between the parts of a document. -/
def isBlank (c : Char) : Bool := c == ' ' || c == '\t' || c == '\n' || c == '\r'

/-- Drops blanks. -/
def skipBlanks (cs : List Char) : List Char := cs.dropWhile isBlank

/-- The character after a backslash, where it is a single letter or mark. -/
def escape? : Char → Option Char
  | '"' => some '"'
  | '\\' => some '\\'
  | '/' => some '/'
  | 'b' => some '\x08'
  | 'f' => some '\x0C'
  | 'n' => some '\n'
  | 'r' => some '\r'
  | 't' => some '\t'
  | _ => none

/-- The character that a code unit denotes, alone or with the unit after it. The first
unit of a pair does not stand alone, nor does the second. -/
def pairedChar? (high low : Nat) : Option Char :=
  if 0xD800 ≤ high ∧ high < 0xDC00 ∧ 0xDC00 ≤ low ∧ low < 0xE000 then
    some (Char.ofNat (0x10000 + (high - 0xD800) * 0x400 + (low - 0xDC00)))
  else none

/-- Reads a string after its opening mark: its content and what follows it. Controls must
be escaped. -/
def readString? : List Char → Option (List Char × List Char)
  | [] => none
  | '"' :: rest => some ([], rest)
  | '\\' :: 'u' :: a :: b :: c :: d :: rest =>
    match Text.hexValue? [a, b, c, d] with
    | none => none
    | some unit =>
      if unit.isValidChar then
        (readString? rest).map fun (content, rest) => (Char.ofNat unit :: content, rest)
      else
        -- the first unit of a pair; the second has to follow at once
        match rest with
        | '\\' :: 'u' :: a :: b :: c :: d :: rest =>
          match (Text.hexValue? [a, b, c, d]).bind (pairedChar? unit) with
          | none => none
          | some paired =>
            (readString? rest).map fun (content, rest) => (paired :: content, rest)
        | _ => none
  | '\\' :: c :: rest =>
    match escape? c with
    | none => none
    | some c => (readString? rest).map fun (content, rest) => (c :: content, rest)
  | c :: rest =>
    if c = '\\' ∨ c.toNat < 0x20 then none
    else (readString? rest).map fun (content, rest) => (c :: content, rest)

/-- Reads a string and the blanks after it. -/
def readText? (cs : List Char) : Option (String × List Char) :=
  match cs with
  | '"' :: rest =>
    (readString? rest).map fun (content, rest) => (String.ofList content, skipBlanks rest)
  | _ => none

/-- Reads a given character and the blanks after it. -/
def readMark? (mark : Char) (cs : List Char) : Option (List Char) :=
  match cs with
  | c :: rest => if c = mark then some (skipBlanks rest) else none
  | [] => none

/-- Reads the empty content `null` and the blanks after it. -/
def readNull? : List Char → Option (List Char)
  | 'n' :: 'u' :: 'l' :: 'l' :: rest => some (skipBlanks rest)
  | _ => none

/-- Reads the name of a kind: a string, or an object with the name as its one key. -/
def readKind? (cs : List Char) : Option (String × List Char) :=
  match readMark? '\x7b' cs with
  | none => readText? cs
  | some rest => do
    let (name, rest) ← readText? rest
    let rest ← readMark? '\x7d' (← readNull? (← readMark? ':' rest))
    return (name, rest)

/-- Reads a field: its name, a colon and the name of its kind. -/
def readField? (cs : List Char) : Option ((String × String) × List Char) := do
  let (name, rest) ← readText? cs
  let (kind, rest) ← readKind? (← readMark? ':' rest)
  return ((name, kind), rest)

/-- Reads fields up to the closing brace. Every field takes a character, so as many steps
as there are characters are enough. -/
def readFields? : Nat → List Char → Option (List (String × String) × List Char)
  | 0, _ => none
  | steps + 1, cs => do
    let (field, rest) ← readField? cs
    match readMark? ',' rest with
    | some rest =>
      let (fields, rest) ← readFields? steps rest
      return (field :: fields, rest)
    | none => return ([field], ← readMark? '\x7d' rest)

/-- Reads the fields of a document. Nothing may follow them. -/
def read? (cs : List Char) : Option (List (String × String)) := do
  let rest ← readMark? '\x7b' (skipBlanks cs)
  match readMark? '\x7d' rest with
  | some rest => if rest.isEmpty then return [] else none
  | none =>
    let (fields, rest) ← readFields? cs.length rest
    if rest.isEmpty then return fields else none

/-- The codec of JSON objects. -/
def codec : Codec where
  write fields := String.ofList (write fields)
  read? text := read? text.toList

end Schema.Document

/-- The text of a schema. -/
def Schema.toDocument (s : Schema) : String := Document.codec.toDocument s

/-- The schema that a text describes. -/
def Schema.ofDocument? (text : String) : Option Schema := Document.codec.ofDocument? text

end RecordFilter
