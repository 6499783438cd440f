import RecordFilter.Text.Blank
import RecordFilter.Text.Hexadecimal
import RecordFilter.Text.Letters

/-!
# Tokens of attributes

The text of an attribute consists of words, literals and marks, with white space and
comments between them. Only the content of string literals matters; of other literals it
matters where they end.

## Main definitions

* `AttributeToken`: the tokens of an attribute
* `AttributeToken.readAll?`: the tokens of a text
-/

namespace RecordFilter

/-- A token of an attribute. -/
inductive AttributeToken where
  /-- A word. A raw word keeps its mark. -/
  | word (s : String)
  /-- A string literal, with its escapes resolved. -/
  | text (s : String)
  /-- A literal of any other type. -/
  | literal
  /-- The sign between the parts of a path. -/
  | separator
  /-- A mark that is none of these. A comment of documentation counts as a number sign. -/
  | mark (c : Char)
  deriving DecidableEq, Repr

namespace AttributeToken

/-! ### Gaps -/

/-- White space between tokens. The two marks of writing direction count as white space. -/
def isGap (c : Char) : Bool := Text.isBlank c || c == '\u200E' || c == '\u200F'

/-- What follows a comment in which comments may be nested, `depth` of which are open. -/
def pastBlock? (depth : Nat) : List Char → Option (List Char)
  | '/' :: '*' :: rest => pastBlock? (depth + 1) rest
  | '*' :: '/' :: rest => if depth ≤ 1 then some rest else pastBlock? (depth - 1) rest
  | _ :: rest => pastBlock? depth rest
  | [] => none

/-- Whether the text after two slashes belongs to a comment of documentation. -/
def documentsLine : List Char → Bool
  | '/' :: '/' :: _ => false
  | '/' :: _ | '!' :: _ => true
  | _ => false

/-- Whether the text after a slash and a star belongs to a comment of documentation. -/
def documentsBlock : List Char → Bool
  | '*' :: '/' :: _ | '*' :: '*' :: _ => false
  | '*' :: _ | '!' :: _ => true
  | _ => false

/-- Drops white space and comments. Every step drops a character, so as many steps as there
are characters are enough. -/
def pastGapsIn : Nat → List Char → List Char
  | 0, cs => cs
  | steps + 1, cs =>
    match cs with
    | '/' :: '/' :: rest =>
      if documentsLine rest then cs else pastGapsIn steps (rest.dropWhile (· != '\n'))
    | '/' :: '*' :: rest =>
      if documentsBlock rest then cs
      else
        match pastBlock? 0 cs with
        | some rest => pastGapsIn steps rest
        | none => cs
    | c :: rest => if isGap c then pastGapsIn steps rest else cs
    | [] => []

/-- Drops white space and comments. -/
def pastGaps (cs : List Char) : List Char := pastGapsIn cs.length cs

/-! ### Words -/

/-- Whether a word can begin with a character. -/
def startsWord (c : Char) : Bool := c == '_' || Text.startsIdentifier c

/-- Reads a word. -/
def readWord? : List Char → Option (List Char × List Char)
  | [] => none
  | c :: rest =>
    if startsWord c then
      let (more, rest) := rest.span Text.continuesIdentifier
      some (c :: more, rest)
    else none

/-- Reads a raw word after its mark. A few words have no raw form. -/
def readRawWord? (cs : List Char) : Option (List Char × List Char) :=
  match readWord? cs with
  | some (name, rest) =>
    if ["_", "super", "self", "Self", "crate"].contains (String.ofList name) then none
    else some ('r' :: '#' :: name, rest)
  | none => none

/-- What follows a literal: a word right after it is its suffix and belongs to it. -/
def pastSuffix (cs : List Char) : List Char :=
  match readWord? cs with
  | some (_, rest) => rest
  | none => cs

/-! ### Texts and characters -/

/-- Reads the code point of an escape after its opening brace: up to six digits, with low
lines after the first of them. -/
def readCodePoint? (cs : List Char) : Option (Char × List Char) :=
  match cs.span (· != '\x7d') with
  | (written, _ :: rest) =>
    let ds := written.filter (· != '_')
    if ds.isEmpty || 6 < ds.length || written.head? == some '_' then none
    else
      match Text.hexValue? ds with
      | some n => if n.isValidChar then some (Char.ofNat n, rest) else none
      | none => none
  | (_, []) => none

/-- Reads an escape after its backslash: what it stands for and what follows it. A code of
two digits stays within ASCII, except in `bytes`. -/
def readEscape? (bytes : Bool) : List Char → Option (Char × List Char)
  | 'n' :: rest => some ('\n', rest)
  | 'r' :: rest => some ('\r', rest)
  | 't' :: rest => some ('\t', rest)
  | '0' :: rest => some ('\x00', rest)
  | '\\' :: rest => some ('\\', rest)
  | '\'' :: rest => some ('\'', rest)
  | '"' :: rest => some ('"', rest)
  | 'x' :: a :: b :: rest =>
    match Text.hexValue? [a, b] with
    | some n => if bytes || n < 128 then some (Char.ofNat n, rest) else none
    | none => none
  | 'u' :: '\x7b' :: rest => readCodePoint? rest
  | _ => none

/-- What follows a line break after a backslash and all white space after it. A carriage
return stands before a line feed only. -/
def pastBreak? : List Char → Option (List Char)
  | [] => none
  | '\r' :: '\n' :: rest => pastBreak? rest
  | '\r' :: _ => none
  | c :: rest => if c == ' ' || c == '\t' || c == '\n' then pastBreak? rest else some (c :: rest)

/-- Reads a string literal after its opening mark. Every step reads a character, so as many
steps as there are characters are enough. -/
def readText? (bytes : Bool) : Nat → List Char → Option (List Char × List Char)
  | 0, _ => none
  | _ + 1, [] => none
  | _ + 1, '"' :: rest => some ([], rest)
  | steps + 1, '\\' :: '\n' :: rest => do readText? bytes steps (← pastBreak? rest)
  | steps + 1, '\\' :: '\r' :: rest => do readText? bytes steps (← pastBreak? ('\r' :: rest))
  | steps + 1, '\\' :: rest => do
    let (c, rest) ← readEscape? bytes rest
    let (content, rest) ← readText? bytes steps rest
    return (c :: content, rest)
  | steps + 1, '\r' :: '\n' :: rest => do
    let (content, rest) ← readText? bytes steps rest
    return ('\n' :: content, rest)
  | _ + 1, '\r' :: _ => none
  | steps + 1, c :: rest => do
    let (content, rest) ← readText? bytes steps rest
    return (c :: content, rest)

/-- Reads a raw string literal after its opening mark. It ends with a mark and as many number
signs as stand before it. -/
def readRaw? (signs : List Char) : List Char → Option (List Char × List Char)
  | [] => none
  | c :: rest =>
    if c = '"' ∧ signs.isPrefixOf rest then some ([], rest.drop signs.length)
    else if c = '\r' ∧ rest.head? ≠ some '\n' then none
    else (readRaw? signs rest).map fun (content, rest) => (c :: content, rest)

/-- Reads a string literal, raw or not, without its suffix. -/
def readString? (bytes : Bool) : List Char → Option (List Char × List Char)
  | '"' :: rest => readText? bytes (rest.length + 1) rest
  | 'r' :: rest =>
    match rest.span (· == '#') with
    | (signs, '"' :: rest) => if signs.length ≤ 255 then readRaw? signs rest else none
    | _ => none
  | _ => none

/-- Reads a character literal after its opening mark, without its suffix. -/
def readChar? (bytes : Bool) : List Char → Option (List Char)
  | '\\' :: rest =>
    match readEscape? bytes rest with
    | some (_, '\'' :: rest) => some rest
    | _ => none
  | _ :: '\'' :: rest => some rest
  | _ => none

/-- Reads a literal that is a text or a character. -/
def readQuoted? : List Char → Option (AttributeToken × List Char)
  | '\'' :: rest => (readChar? false rest).map fun rest => (.literal, pastSuffix rest)
  | 'b' :: '\'' :: rest => (readChar? true rest).map fun rest => (.literal, pastSuffix rest)
  | 'b' :: rest | 'c' :: rest =>
    (readString? true rest).map fun (_, rest) => (.literal, pastSuffix rest)
  | cs =>
    (readString? false cs).map fun (content, rest) =>
      (.text (String.ofList content), pastSuffix rest)

/-! ### Numbers -/

/-- Whether a character can stand among decimal digits. -/
def isDigitOrLine (c : Char) : Bool := c.isDigit || c == '_'

/-- What follows the exponent of a number, after its letter. -/
def pastExponent? (cs : List Char) : Option (List Char) :=
  let cs := cs.dropWhile (· == '_')
  let cs := match cs with
    | '+' :: rest | '-' :: rest => rest
    | cs => cs
  match cs.dropWhile (· == '_') with
  | c :: rest => if c.isDigit then some (rest.dropWhile isDigitOrLine) else none
  | [] => none

/-- What follows a number with a point or an exponent, if the text begins with one. -/
def pastFraction? (cs : List Char) : Option (List Char) :=
  match cs.dropWhile isDigitOrLine with
  | '.' :: rest =>
    if rest.head?.any fun c => c == '.' || startsWord c then none
    else
      match rest.dropWhile isDigitOrLine with
      | 'e' :: more => some ((pastExponent? more).getD ('e' :: more))
      | 'E' :: more => some ((pastExponent? more).getD ('E' :: more))
      | rest => some rest
  | 'e' :: rest | 'E' :: rest => pastExponent? rest
  | _ => none

/-- What follows an integer, if the text begins with one. -/
def pastInteger? : List Char → Option (List Char)
  | '0' :: 'x' :: rest =>
    let isDigit (c : Char) : Bool := (Text.hexDigit? c).isSome
    let (ds, rest) := rest.span fun c => isDigit c || c == '_'
    if ds.any isDigit then some rest else none
  | '0' :: 'o' :: rest =>
    let (ds, rest) := rest.span isDigitOrLine
    if ds.any Char.isDigit && ds.all fun c => c < '8' || c == '_' then some rest else none
  | '0' :: 'b' :: rest =>
    let (ds, rest) := rest.span isDigitOrLine
    if ds.any Char.isDigit && ds.all fun c => c < '2' || c == '_' then some rest else none
  | cs => some (cs.dropWhile isDigitOrLine)

/-- Reads a number, which begins with a digit. -/
def readNumber? (cs : List Char) : Option (AttributeToken × List Char) :=
  match (pastFraction? cs).or (pastInteger? cs) with
  | none => none
  | some rest =>
    let rest := pastSuffix rest
    if rest.head?.any Text.continuesIdentifier then none else some (.literal, rest)

/-! ### All tokens -/

/-- The characters that are marks. -/
def marks : List Char := "~!@#$%^&*-=+|;:,<.>/?()[]\x7b\x7d".toList

/-- Reads a mark or a separator. A quotation mark is a mark if a word follows it. -/
def readMark? : List Char → Option (AttributeToken × List Char)
  | '/' :: '/' :: rest => some (.mark '#', rest.dropWhile (· != '\n'))
  | '/' :: '*' :: rest => (pastBlock? 1 rest).map fun rest => (.mark '#', rest)
  | ':' :: ':' :: rest => some (.separator, rest)
  | '\'' :: rest =>
    match readWord? rest with
    | some (_, '\'' :: _) => none
    | some _ => some (.mark '\'', rest)
    | none => none
  | c :: rest => if marks.contains c then some (.mark c, rest) else none
  | [] => none

/-- Whether a text begins like a literal, so that it cannot begin with a word. -/
def startsLiteral (cs : List Char) : Bool :=
  ["r\"", "r#\"", "r##", "b\"", "b'", "br\"", "br#", "c\"", "cr\"", "cr#"].any fun start =>
    start.toList.isPrefixOf cs

/-- Reads one token at a character that is no gap. -/
def read? (cs : List Char) : Option (AttributeToken × List Char) :=
  match readQuoted? cs with
  | some read => some read
  | none =>
    if cs.head?.any Char.isDigit then readNumber? cs
    else
      match readMark? cs with
      | some read => some read
      | none =>
        if startsLiteral cs then none
        else
          let word := match cs with
            | 'r' :: '#' :: rest => readRawWord? rest
            | cs => readWord? cs
          word.map fun (name, rest) => (.word (String.ofList name), rest)

/-- Reads tokens to the end. -/
def readAllIn? : Nat → List Char → Option (List AttributeToken)
  | 0, cs => if (pastGaps cs).isEmpty then some [] else none
  | steps + 1, cs =>
    match pastGaps cs with
    | [] => some []
    | cs => do
      let (token, rest) ← read? cs
      return token :: (← readAllIn? steps rest)

/-! ### Brackets -/

/-- The bracket that closes what a token opens. -/
def closing? : AttributeToken → Option AttributeToken
  | .mark '(' => some (.mark ')')
  | .mark '[' => some (.mark ']')
  | .mark '\x7b' => some (.mark '\x7d')
  | _ => none

/-- Whether a token opens a bracket. -/
def isOpening (t : AttributeToken) : Bool := t.closing?.isSome

/-- Whether a token closes a bracket. -/
def isClosing (t : AttributeToken) : Bool :=
  t == .mark ')' || t == .mark ']' || t == .mark '\x7d'

/-- Whether the brackets of a row of tokens fit together, where the closing brackets in
`awaited` are still to come, the next one first. -/
def balanced (awaited : List AttributeToken) : List AttributeToken → Bool
  | [] => awaited.isEmpty
  | t :: rest =>
    match t.closing? with
    | some closing => balanced (closing :: awaited) rest
    | none =>
      if t.isClosing then awaited.head? == some t && balanced awaited.tail rest
      else balanced awaited rest

/-- The tokens up to the first one that `stops` holds of and that is outside of brackets, and
the tokens from there on. `depth` brackets are open. -/
def spanOutside (stops : AttributeToken → Bool) (depth : Nat) :
    List AttributeToken → List AttributeToken × List AttributeToken
  | [] => ([], [])
  | t :: rest =>
    if depth = 0 ∧ stops t then ([], t :: rest)
    else
      let depth := if t.isOpening then depth + 1 else if t.isClosing then depth - 1 else depth
      let (part, rest) := spanOutside stops depth rest
      (t :: part, rest)

/-- The tokens of an attribute's text, whose brackets fit together. A mark of byte order may
stand before them. -/
def readAll? (text : String) : Option (List AttributeToken) :=
  let cs := match text.toList with
    | '\uFEFF' :: cs => cs
    | cs => cs
  (readAllIn? cs.length cs).filter (balanced [])

end AttributeToken

end RecordFilter
