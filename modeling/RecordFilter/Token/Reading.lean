import RecordFilter.Text.Blank
import RecordFilter.Token.Basic

/-!
# Reading tokens

At each place of a text the longest possible token is read. Its category is known from
its first characters, so nothing is ever read twice. Between tokens there may be white
space and commas.

## Main definitions

* `Reading`, found by `Lexeme.read?`: the first token of a text
* `Token.scan`: the tokens of a text up to its end or to what is no token
* `tokenize`

## Main results

* `Reading.source_append_rest`: a token and what follows it are the text
* `Reading.source_ne_nil`: no token is empty
-/

namespace RecordFilter

/-- A token at the front of a text: what it says, how it is spelled, and the rest of the
text. -/
structure Reading where
  lexeme : Lexeme
  source : List Char
  rest : List Char

namespace Lexeme

/-- Letters and the low line begin a word. -/
def startsWord (c : Char) : Bool := c.isAlpha || c == '_'

/-- Digits, too, continue a word. -/
def continuesWord (c : Char) : Bool := c.isAlphanum || c == '_'

/-- The characters of which comparison operators are made. -/
def isComparison (c : Char) : Bool := c == '=' || c == '!' || c == '<' || c == '>'

/-- Splits a number into its sign and the rest. -/
def splitSign : List Char → List Char × List Char
  | '+' :: rest => (['+'], rest)
  | '-' :: rest => (['-'], rest)
  | cs => ([], cs)

/-- Splits digits into their fraction, point included, and the rest. A point without a
digit after it is no part of a number. -/
def splitFraction (cs : List Char) : List Char × List Char :=
  match cs with
  | '.' :: more =>
    let digits := more.takeWhile Char.isDigit
    if digits.isEmpty then ([], cs) else ('.' :: digits, more.dropWhile Char.isDigit)
  | _ => ([], cs)

/-- Reads a number: an optional sign, digits, and an optional fraction. -/
def readNumber? (cs : List Char) : Option Reading :=
  let (sign, unsigned) := splitSign cs
  let digits := unsigned.takeWhile Char.isDigit
  if digits.isEmpty then none
  else
    let (fraction, rest) := splitFraction (unsigned.dropWhile Char.isDigit)
    let source := sign ++ digits ++ fraction
    some ⟨.number (String.ofList source), source, rest⟩

/-- Reads a quoted text after its opening mark: its content, its spelling and the rest.
A text that does not end is not read. -/
def readQuoted? : List Char → Option (List Char × List Char × List Char)
  | [] => none
  | '"' :: rest => some ([], ['"'], rest)
  | ['\\'] => none
  | '\\' :: c :: rest =>
    (readQuoted? rest).map fun (content, source, rest) => (c :: content, '\\' :: c :: source, rest)
  | c :: rest =>
    (readQuoted? rest).map fun (content, source, rest) => (c :: content, c :: source, rest)

/-- Reads the token at the front of a text, if a token can begin there. -/
def read? (cs : List Char) : Option Reading :=
  match cs with
  | [] => none
  | '(' :: rest => some ⟨.opening, ['('], rest⟩
  | ')' :: rest => some ⟨.closing, [')'], rest⟩
  | '"' :: rest =>
    (readQuoted? rest).map fun (content, source, rest) =>
      ⟨.text (String.ofList content), '"' :: source, rest⟩
  | c :: _ =>
    if startsWord c then
      let source := cs.takeWhile continuesWord
      some ⟨.word (String.ofList source), source, cs.dropWhile continuesWord⟩
    else if isComparison c then
      let source := cs.takeWhile isComparison
      some ⟨.symbol (String.ofList source), source, cs.dropWhile isComparison⟩
    else readNumber? cs

end Lexeme

namespace Reading

theorem splitSign_append (cs : List Char) :
    (Lexeme.splitSign cs).1 ++ (Lexeme.splitSign cs).2 = cs := by
  unfold Lexeme.splitSign
  split <;> rfl

theorem splitFraction_append (cs : List Char) :
    (Lexeme.splitFraction cs).1 ++ (Lexeme.splitFraction cs).2 = cs := by
  unfold Lexeme.splitFraction
  split
  · next more =>
    dsimp only
    split
    · rfl
    · simp [List.takeWhile_append_dropWhile]
  · rfl

theorem readNumber?_append {cs : List Char} {r : Reading} (h : Lexeme.readNumber? cs = some r) :
    r.source ++ r.rest = cs ∧ r.source ≠ [] := by
  simp only [Lexeme.readNumber?] at h
  split at h
  · cases h
  · next digits =>
    cases h
    refine ⟨?_, by simp_all⟩
    dsimp only
    rw [List.append_assoc, splitFraction_append, List.append_assoc,
      List.takeWhile_append_dropWhile, splitSign_append]

theorem readQuoted?_append {cs content source rest : List Char}
    (h : Lexeme.readQuoted? cs = some (content, source, rest)) : source ++ rest = cs := by
  fun_induction Lexeme.readQuoted? cs generalizing content source rest with
  | case1 => cases h
  | case2 => cases h; rfl
  | case3 => cases h
  | case4 c tail ih =>
    obtain ⟨⟨content, source, rest⟩, read, same⟩ := Option.map_eq_some_iff.mp h
    cases same
    simp [ih read]
  | case5 c tail _ _ _ ih =>
    obtain ⟨⟨content, source, rest⟩, read, same⟩ := Option.map_eq_some_iff.mp h
    cases same
    simp [ih read]

theorem takeWhile_ne_nil {p : Char → Bool} {c : Char} {rest : List Char} (h : p c = true) :
    (c :: rest).takeWhile p ≠ [] := by
  simp [h]

theorem continuesWord_of_startsWord {c : Char} (h : Lexeme.startsWord c = true) :
    Lexeme.continuesWord c = true := by
  simp only [Lexeme.startsWord, Lexeme.continuesWord, Char.isAlphanum, Bool.or_eq_true] at h ⊢
  rcases h with letter | line
  · exact Or.inl (Or.inl letter)
  · exact Or.inr line

/-- A token and what follows it are the text, and no token is empty. -/
theorem source_append_rest {cs : List Char} {r : Reading} (h : Lexeme.read? cs = some r) :
    r.source ++ r.rest = cs ∧ r.source ≠ [] := by
  unfold Lexeme.read? at h
  split at h
  · cases h
  · cases h; exact ⟨rfl, List.cons_ne_nil _ _⟩
  · cases h; exact ⟨rfl, List.cons_ne_nil _ _⟩
  · obtain ⟨⟨content, source, rest⟩, read, same⟩ := Option.map_eq_some_iff.mp h
    cases same
    exact ⟨congrArg _ (readQuoted?_append read), List.cons_ne_nil _ _⟩
  · next c rest _ _ _ =>
    split at h
    · next start =>
      cases h
      exact ⟨List.takeWhile_append_dropWhile, takeWhile_ne_nil (continuesWord_of_startsWord start)⟩
    · split at h
      · next start =>
        cases h
        exact ⟨List.takeWhile_append_dropWhile, takeWhile_ne_nil start⟩
      · exact readNumber?_append h

/-- What follows a token is shorter than the text. -/
theorem length_rest_lt {cs : List Char} {r : Reading} (h : Lexeme.read? cs = some r) :
    r.rest.length < cs.length := by
  obtain ⟨whole, nonempty⟩ := source_append_rest h
  have positive := List.length_pos_iff.mpr nonempty
  have sizes := congrArg List.length whole
  rw [List.length_append] at sizes
  omega

end Reading

/-- The number of UTF-8 bytes of some characters. -/
def utf8Length (cs : List Char) : Nat := cs.foldr (fun c length => c.utf8Size + length) 0

namespace Token

/-- The tokens of a text that stands `offset` bytes into the whole, up to its end or to
the first character that begins no token. -/
def scan (offset : Nat) (cs : List Char) : List Token × Option (Nat × Char) :=
  match cs with
  | [] => ([], none)
  | c :: rest =>
    if Text.isGap c then scan (offset + c.utf8Size) rest
    else
      -- the equation is what shows that the rest is shorter
      match _front : Lexeme.read? (c :: rest) with
      | none => ([], some (offset, c))
      | some r =>
        let (tokens, stop) := scan (offset + utf8Length r.source) r.rest
        (⟨r.lexeme, offset⟩ :: tokens, stop)
termination_by cs.length
decreasing_by
  · simp
  · exact Reading.length_rest_lt _front

end Token

/-- The tokens of a text. -/
def tokenize (text : String) : Except TokenizeError (List Token) :=
  match Token.scan 0 text.toList with
  | (tokens, none) => .ok tokens
  | (tokens, some (offset, c)) => .error ⟨offset, c, tokens⟩

end RecordFilter
