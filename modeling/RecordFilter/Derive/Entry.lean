import RecordFilter.Derive.AttributeToken

/-!
# Attribute entries

The text of an attribute is a list of entries between commas. An entry is a path, a path
with a value, or a path with an argument list in brackets.

## Main definitions

* `Path`, `EntryValue`, `AttributeEntry`
* `EntryError`, with its wording
* `AttributeEntry.ofTokens`, `AttributeEntry.ofText`: the entries that some tokens or a text
  spell
-/

namespace RecordFilter

/-- A name with its qualifications, as in `a::b`. -/
structure Path where
  /-- Whether the path begins with a separator. -/
  absolute : Bool
  segments : List String
  deriving DecidableEq, Repr

/-- The name that a path without qualifications is. -/
def Path.name? (p : Path) : Option String :=
  match p with
  | ⟨false, [name]⟩ => some name
  | _ => none

/-- The value of an entry. Only the content of a string literal matters. -/
inductive EntryValue where
  | text (s : String)
  | other
  deriving DecidableEq, Repr

/-- An entry of an attribute. -/
inductive AttributeEntry where
  | path (p : Path)
  | assignment (p : Path) (value : EntryValue)
  | call (p : Path) (arguments : List AttributeToken)
  deriving DecidableEq, Repr

/-! ### Errors -/

/-- The parts of an entry list that may be missing. -/
inductive EntryPart where
  | name
  /-- A name after a separator. -/
  | segment
  | value
  | comma
  deriving DecidableEq, Repr

/-- A part as messages call it. -/
def EntryPart.description : EntryPart → String
  | name => "identifier"
  | segment => "path segment after `::`"
  | value => "an expression"
  | comma => "`,`"

/-- Why a text is no list of entries. -/
inductive EntryError where
  /-- The text does not consist of tokens, or its brackets do not fit together. -/
  | notTokens
  /-- A part is missing, at the end or in front of another token. -/
  | missing (part : EntryPart) (atEnd : Bool)
  /-- The name of an entry is a reserved word. -/
  | reservedWord (word : String)
  /-- The value of an entry begins like an attribute. -/
  | attributeInside
  deriving DecidableEq, Repr

/-- The wording of an error. -/
def EntryError.message : EntryError → String
  | notTokens => "cannot parse string into token stream"
  | missing part atEnd =>
    (if atEnd then "unexpected end of input, " else "") ++ "expected " ++ part.description
  | reservedWord word => s!"expected identifier, found keyword `{word}`"
  | attributeInside => "unexpected attribute inside of attribute"

namespace AttributeEntry

/-! ### Paths -/

/-- The words that are no names. -/
def reservedWords : List String :=
  ["_", "abstract", "as", "async", "await", "become", "box", "break", "const", "continue", "do",
    "dyn", "else", "enum", "extern", "false", "final", "fn", "for", "if", "impl", "in", "let",
    "loop", "macro", "match", "mod", "move", "mut", "override", "priv", "pub", "ref", "return",
    "static", "struct", "trait", "true", "try", "type", "typeof", "unsafe", "unsized", "use",
    "virtual", "where", "while", "yield"]

/-- Reads the name at the beginning of a path. -/
def readName : List AttributeToken → Except EntryError (String × List AttributeToken)
  | .word name :: rest =>
    if reservedWords.contains name then .error (.reservedWord name) else .ok (name, rest)
  | tokens => .error (.missing .name tokens.isEmpty)

/-- Reads the segments of a path after its first. -/
def readSegments : List AttributeToken → Except EntryError (List String × List AttributeToken)
  | .separator :: .word name :: rest =>
    if reservedWords.contains name then .error (.missing .segment false)
    else (readSegments rest).map fun (names, rest) => (name :: names, rest)
  | .separator :: rest => .error (.missing .segment rest.isEmpty)
  | tokens => .ok ([], tokens)

/-- Reads a path. One reserved word is a path by itself. -/
def readPath : List AttributeToken → Except EntryError (Path × List AttributeToken)
  | .word "unsafe" :: rest => .ok (⟨false, ["unsafe"]⟩, rest)
  | .separator :: rest => do
    let (name, rest) ← readName rest
    let (names, rest) ← readSegments rest
    return (⟨true, name :: names⟩, rest)
  | tokens => do
    let (name, rest) ← readName tokens
    let (names, rest) ← readSegments rest
    return (⟨false, name :: names⟩, rest)

/-! ### Values -/

/-- Whether a value may go on with a token after a literal. -/
def continuesValue : AttributeToken → Bool
  | .word word => word == "as"
  | .mark c => "([.?+-*/%^&|<>=!".toList.contains c
  | _ => false

/-- Reads a value, which ends before a comma. -/
def readValue (tokens : List AttributeToken) :
    Except EntryError (EntryValue × List AttributeToken) :=
  let (value, rest) := AttributeToken.spanOutside (· == .mark ',') 0 tokens
  match value with
  | [] => .error (.missing .value rest.isEmpty)
  | .mark '#' :: .mark '[' :: _ => .error .attributeInside
  | [.text s] => .ok (.text s, rest)
  | .text _ :: t :: _ | .literal :: t :: _ =>
    if continuesValue t then .ok (.other, rest) else .error (.missing .comma false)
  | _ => .ok (.other, rest)

/-! ### Entries -/

/-- Reads one entry. -/
def read (tokens : List AttributeToken) :
    Except EntryError (AttributeEntry × List AttributeToken) := do
  let (p, rest) ← readPath tokens
  match rest with
  | [] => return (.path p, [])
  | .mark '=' :: rest =>
    let (value, rest) ← readValue rest
    return (.assignment p value, rest)
  | t :: rest =>
    if t.isOpening then
      let (arguments, rest) := AttributeToken.spanOutside AttributeToken.isClosing 0 rest
      return (.call p arguments, rest.drop 1)
    else return (.path p, t :: rest)

/-- Reads entries between commas to the end. A comma may follow the last entry. Every entry
has a token, so as many steps as there are tokens are enough. -/
def readAll : Nat → List AttributeToken → Except EntryError (List AttributeEntry)
  | _, [] | 0, _ => .ok []
  | steps + 1, tokens => do
    let (entry, rest) ← read tokens
    match rest with
    | [] => return [entry]
    | .mark ',' :: rest => return entry :: (← readAll steps rest)
    | _ => .error (.missing .comma false)

/-- The entries of a row of tokens. -/
def ofTokens (tokens : List AttributeToken) : Except EntryError (List AttributeEntry) :=
  readAll tokens.length tokens

/-- The entries of a text. -/
def ofText (text : String) : Except EntryError (List AttributeEntry) :=
  match AttributeToken.readAll? text with
  | none => .error .notTokens
  | some tokens => ofTokens tokens

/-- The one entry that a text is. -/
def single? (text : String) : Option AttributeEntry :=
  match (AttributeToken.readAll? text).map read with
  | some (.ok (entry, [])) => some entry
  | _ => none

end AttributeEntry

end RecordFilter
