import RecordFilter.Pattern.Layout
import RecordFilter.Pattern.Property
import RecordFilter.Pattern.SetTerm
import RecordFilter.Text.Hexadecimal

/-!
# Escapes

What a backslash and the text after it stand for: a character that is special or that is
given by its code point, a set of characters, or a condition on a position.

## Main definitions

* `Pattern.Escape`
* `Pattern.readEscape?`: reads an escape after its backslash
-/

namespace RecordFilter.Pattern

/-- What an escape stands for. -/
inductive Escape where
  /-- A character. It is a byte if it was given by exactly two digits. -/
  | char (c : Char) (byte : Bool)
  | term (t : SetTerm)
  | anchor (a : Anchor)

/-- The character whose code point the digits denote. -/
def codePoint? (ds : List Char) : Option Char :=
  if ds.isEmpty then none
  else do
    let point ← Text.hexValue? ds
    if point.isValidChar then some (Char.ofNat point) else none

/-- Whether a character is a hexadecimal digit. -/
def isHexDigit (c : Char) : Bool := (Text.hexDigit? c).isSome

/-- Reads a code point: `count` digits, or any number of them in braces. -/
def readCodePoint? (verbose : Bool) (count : Nat) (cs : List Char) :
    Option (Escape × List Char) :=
  match pastLayout verbose cs with
  | '\x7b' :: rest =>
    match spanLoose verbose isHexDigit (pastLayout verbose rest) with
    | (ds, '\x7d' :: rest) =>
      (codePoint? ds).map fun c => (.char c false, pastLayout verbose rest)
    | _ => none
  | cs =>
    let (ds, rest) := takeLoose verbose isHexDigit count cs
    if ds.length < count then none
    else (codePoint? ds).map fun c => (.char c (count == 2), rest)

/-- Reads a property: one letter, or a text in braces. -/
def readProperty? (verbose negated : Bool) (cs : List Char) : Option (Escape × List Char) :=
  match pastLayout verbose cs with
  | [] => none
  | '\x7b' :: rest =>
    match spanLoose verbose (· != '\x7d') (pastLayout verbose rest) with
    | (name, _ :: rest) => (property? name).map fun set => (.term (.property set negated), rest)
    | (_, []) => none
  | '\\' :: _ => none
  | c :: rest =>
    (property? [c]).map fun set => (.term (.property set negated), pastLayout verbose rest)

/-- The part of a word's edge with a name. -/
def wordEdge? : String → Option WordEdge
  | "start" => some .wordStart
  | "end" => some .wordEnd
  | "start-half" => some .notAfterWord
  | "end-half" => some .notBeforeWord
  | _ => none

/-- Reads what may follow the sign of a word boundary: the name of one of its parts in
braces. Braces that begin otherwise do not belong to it. -/
def readWordEdge? (verbose : Bool) (cs : List Char) : Option (WordEdge × List Char) :=
  let inName (c : Char) : Bool := c.isAlpha || c == '-'
  match cs with
  | '\x7b' :: rest =>
    match pastLayout verbose rest with
    | [] => none
    | c :: more =>
      if !inName c then some (.boundary, cs)
      else
        match spanLoose verbose inName (c :: more) with
        | (name, '\x7d' :: rest) => (wordEdge? (String.ofList name)).map (·, rest)
        | _ => none
  | cs => some (.boundary, cs)

/-- Reads the part of an escape that follows the backslash. Punctuation and controls
stand for themselves; letters and digits have a meaning of their own or none. -/
def readEscape? (verbose : Bool) : List Char → Option (Escape × List Char)
  | [] => none
  | c :: rest =>
    match c with
    | 'd' => some (.term (.shorthand .digits false), rest)
    | 'D' => some (.term (.shorthand .digits true), rest)
    | 's' => some (.term (.shorthand .blanks false), rest)
    | 'S' => some (.term (.shorthand .blanks true), rest)
    | 'w' => some (.term (.shorthand .words false), rest)
    | 'W' => some (.term (.shorthand .words true), rest)
    | 'p' => readProperty? verbose false rest
    | 'P' => readProperty? verbose true rest
    | 'A' => some (.anchor .textStart, rest)
    | 'z' => some (.anchor .textEnd, rest)
    | 'b' => (readWordEdge? verbose rest).map fun (e, rest) => (.anchor (.edge e), rest)
    | 'B' => some (.anchor (.edge .notBoundary), rest)
    | '<' => some (.anchor (.edge .wordStart), rest)
    | '>' => some (.anchor (.edge .wordEnd), rest)
    | 'a' => some (.char '\x07' false, rest)
    | 'f' => some (.char '\x0C' false, rest)
    | 'n' => some (.char '\n' false, rest)
    | 'r' => some (.char '\r' false, rest)
    | 't' => some (.char '\t' false, rest)
    | 'v' => some (.char '\x0B' false, rest)
    | 'x' => readCodePoint? verbose 2 rest
    | 'u' => readCodePoint? verbose 4 rest
    | 'U' => readCodePoint? verbose 8 rest
    | c => if c.toNat < 128 && !c.isAlphanum then some (.char c false, rest) else none

end RecordFilter.Pattern
