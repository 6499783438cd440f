import RecordFilter.Text.Escaped

/-!
# Tokens

The units of an expression. Words serve as names of fields, as keywords and as truth
values; which of these a word is depends on where it stands.

## Main definitions

* `Lexeme`: what a token says, and `Lexeme.display`: how messages cite it
* `Token`: a lexeme with its place in the text
-/

namespace RecordFilter

/-- What a token says. -/
inductive Lexeme where
  | opening
  | closing
  /-- A name, a keyword or a truth value, as it is spelled. -/
  | word (s : String)
  /-- A number, as it is spelled, sign included. -/
  | number (s : String)
  /-- A quoted text, with its escapes resolved. -/
  | text (s : String)
  /-- A run of comparison characters, whether it is an operator or not. -/
  | symbol (s : String)
  deriving DecidableEq, Repr

namespace Lexeme

/-- How messages cite a token. Only a quoted text is not cited as it is spelled. -/
def display : Lexeme → String
  | opening => "("
  | closing => ")"
  | word s | number s | symbol s => s
  | text s => Text.citeString s

/-- Whether a token is the given keyword. Keywords are given in capitals, and the case of
ASCII letters does not count. -/
def isKeyword (l : Lexeme) (keyword : String) : Bool :=
  match l with
  | word s => s.toUpper == keyword
  | _ => false

end Lexeme

/-- A lexeme, and the number of UTF-8 bytes before it. -/
structure Token where
  lexeme : Lexeme
  offset : Nat
  deriving DecidableEq, Repr

/-- How messages cite a token. -/
def Token.display (t : Token) : String := t.lexeme.display

/-- Where and on what character reading stopped, and what was read before. -/
structure TokenizeError where
  offset : Nat
  char : Char
  tokens : List Token
  deriving DecidableEq, Repr

end RecordFilter
