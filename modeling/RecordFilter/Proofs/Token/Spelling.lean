import Mathlib.Data.List.TakeWhile
import RecordFilter.Proofs.Expression.Literal
import RecordFilter.Token.Reading

/-!
# The spelling of tokens

What a token looks like and where it ends, said without reading it. Each category has its
own spelling, and a token is over only where no further character could belong to it: a
word at a character that continues no word, a run of comparison characters at any other
character, a number at a character that is no digit and, if it has no fraction yet, not
before a point with a digit after it. Parentheses and quoted texts end by themselves.

## Main definitions

* `Lexeme.Quoted`: the spelling of a text between its marks
* `Lexeme.Spelled`: the spelling of a token
* `Lexeme.Ends`: nothing behind a token could belong to it
* `Lexeme.NoStart`: no token begins with the characters

## Main results

* `Lexeme.read?_eq_some_iff`: exactly the longest token at the front of a text is read
* `Lexeme.read?_eq_none_iff`: nothing is read exactly where no token can start
* `Lexeme.Spelled.unique`: the characters of a text fix the token in front and its end
-/

namespace RecordFilter

namespace Lexeme

/-- The characters between two marks spell the content. A backslash makes the character
after it part of the content, whatever it is; any other character stands for itself. -/
inductive Quoted : List Char → List Char → Prop
  | nil : Quoted [] []
  | plain {c : Char} {content source : List Char} (noMark : c ≠ '"') (noEscape : c ≠ '\\')
      (later : Quoted content source) : Quoted (c :: content) (c :: source)
  | escaped {content source : List Char} (c : Char) (later : Quoted content source) :
      Quoted (c :: content) ('\\' :: c :: source)

/-- The characters of comparison operators. -/
def comparisonChars : List Char := ['=', '!', '<', '>']

/-- The characters spell the token. -/
inductive Spelled : Lexeme → List Char → Prop
  | opening : Spelled .opening ['(']
  | closing : Spelled .closing [')']
  | word {c : Char} {more : List Char} (start : c.isAlpha = true ∨ c = '_')
      (continued : ∀ d ∈ more, d.isAlphanum = true ∨ d = '_') :
      Spelled (.word (String.ofList (c :: more))) (c :: more)
  | number {n : Numeral} {cs : List Char} (numeral : n.Spelled cs) :
      Spelled (.number (String.ofList cs)) cs
  | text {content source : List Char} (quoted : Quoted content source) :
      Spelled (.text (String.ofList content)) ('"' :: (source ++ ['"']))
  | symbol {cs : List Char} (nonempty : cs ≠ []) (comparisons : ∀ c ∈ cs, c ∈ comparisonChars) :
      Spelled (.symbol (String.ofList cs)) cs

/-- The token is not continued by what follows it. -/
def Ends (l : Lexeme) (rest : List Char) : Prop :=
  match l with
  | word _ => ∀ c ∈ rest.head?, c.isAlphanum = false ∧ c ≠ '_'
  | symbol _ => ∀ c ∈ rest.head?, c ∉ comparisonChars
  | number s =>
    (∀ c ∈ rest.head?, c.isDigit = false) ∧
      ('.' ∉ s.toList → ∀ c more, rest = '.' :: c :: more → c.isDigit = false)
  | opening | closing | text _ => True

/-- No token begins with the character `c` before the characters `rest`: a quoted text would
not end, a sign has no digit behind it, or `c` begins nothing at all. -/
def NoStart (c : Char) (rest : List Char) : Prop :=
  (c = '"' ∧ ¬ ∃ content source more, Quoted content source ∧ rest = source ++ '"' :: more) ∨
  ((c = '+' ∨ c = '-') ∧ ∀ d ∈ rest.head?, d.isDigit = false) ∨
  (c ∉ ['(', ')', '_', '+', '-', '"'] ∧ c ∉ comparisonChars ∧ c.isAlpha = false ∧
    c.isDigit = false)

/-! ### Runs of characters -/

variable {p : Char → Bool} {front rest : List Char}

/-- A run ends where the characters behind it do not belong to it. -/
theorem takeWhile_dropWhile_append (inside : ∀ c ∈ front, p c = true)
    (stop : ∀ c ∈ rest.head?, p c = false) :
    (front ++ rest).takeWhile p = front ∧ (front ++ rest).dropWhile p = rest := by
  rw [List.takeWhile_append_of_pos inside, List.dropWhile_append_of_pos inside]
  cases rest with
  | nil => simp
  | cons c more => simp [stop c rfl]

theorem eq_false_of_mem_head?_dropWhile {cs : List Char} :
    ∀ c ∈ (cs.dropWhile p).head?, p c = false := by
  intro c first
  have stop := List.head?_dropWhile_not p cs
  rw [Option.mem_def.mp first] at stop
  exact stop

theorem startsWord_iff {c : Char} : startsWord c = true ↔ c.isAlpha = true ∨ c = '_' := by
  simp [startsWord]

theorem continuesWord_iff {c : Char} :
    continuesWord c = true ↔ c.isAlphanum = true ∨ c = '_' := by
  simp [continuesWord]

theorem continuesWord_eq_false_iff {c : Char} :
    continuesWord c = false ↔ c.isAlphanum = false ∧ c ≠ '_' := by
  simp [continuesWord]

theorem isComparison_iff {c : Char} : isComparison c = true ↔ c ∈ comparisonChars := by
  simp [isComparison, comparisonChars, or_assoc]

theorem isComparison_eq_false_iff {c : Char} :
    isComparison c = false ↔ c ∉ comparisonChars := by
  rw [← isComparison_iff, Bool.not_eq_true]

/-! ### Quoted texts -/

/-- A quoted text is read up to the first mark that no backslash stands before. -/
theorem readQuoted?_eq_some_iff {cs content source rest : List Char} :
    readQuoted? cs = some (content, source, rest) ↔
      ∃ body, Quoted content body ∧ source = body ++ ['"'] ∧ cs = source ++ rest := by
  constructor
  · intro h
    -- the reader meets the end, the mark, an escape at the end, an escape or a plain character
    fun_induction readQuoted? cs generalizing content source rest with
    | case1 => cases h
    | case2 => cases h; exact ⟨[], .nil, rfl, rfl⟩
    | case3 => cases h
    | case4 c tail ih =>
      obtain ⟨⟨content, source, rest⟩, read, same⟩ := Option.map_eq_some_iff.mp h
      cases same
      obtain ⟨body, quoted, rfl, rfl⟩ := ih read
      exact ⟨'\\' :: c :: body, .escaped c quoted, rfl, rfl⟩
    | case5 c tail noMark _ noEscape ih =>
      obtain ⟨⟨content, source, rest⟩, read, same⟩ := Option.map_eq_some_iff.mp h
      cases same
      obtain ⟨body, quoted, rfl, rfl⟩ := ih read
      have notEscape : c ≠ '\\' := by
        rintro rfl
        obtain ⟨d, more, shape⟩ : ∃ d more, body ++ ['"'] ++ rest = d :: more := by
          cases body <;> exact ⟨_, _, rfl⟩
        exact noEscape d more rfl shape
      exact ⟨c :: body, .plain noMark notEscape quoted, rfl, rfl⟩
  · rintro ⟨body, quoted, rfl, rfl⟩
    induction quoted with
    | nil => rfl
    | @plain c content body noMark noEscape _ ih =>
      rw [List.cons_append, List.cons_append, readQuoted?, ih]
      · rfl
      · exact noMark
      · exact fun same _ => noEscape same
      · exact fun d more same _ => noEscape same
    | escaped c _ ih =>
      rw [List.cons_append, List.cons_append, List.cons_append, List.cons_append, readQuoted?, ih]
      rfl

/-! ### Numbers -/

open Numeral (Sign Digits fractionText)

/-- The first of some digits is a digit. -/
theorem Digits.exists_cons {ds : List Char} (digits : Digits ds) :
    ∃ c more, ds = c :: more ∧ c.isDigit = true := by
  obtain ⟨c, more, rfl⟩ := List.exists_cons_of_ne_nil digits.1
  exact ⟨c, more, rfl, digits.2 c List.mem_cons_self⟩

theorem sign_splitSign (cs : List Char) : ∃ negative, Sign negative (splitSign cs).1 := by
  unfold splitSign
  split
  · exact ⟨false, .plus⟩
  · exact ⟨true, .minus⟩
  · exact ⟨false, .absent⟩

/-- A sign is split off before digits, and a digit is no sign. -/
theorem splitSign_append {negative : Bool} {mark whole cs : List Char}
    (sign : Sign negative mark) (digits : Digits whole) :
    splitSign (mark ++ (whole ++ cs)) = (mark, whole ++ cs) := by
  cases sign with
  | minus => rfl
  | plus => rfl
  | absent =>
    obtain ⟨c, more, rfl, digit⟩ := Digits.exists_cons digits
    rw [List.nil_append, List.cons_append]
    unfold splitSign
    split
    · next same => rw [(List.cons.inj same).1] at digit; exact absurd digit (by decide)
    · next same => rw [(List.cons.inj same).1] at digit; exact absurd digit (by decide)
    · rfl

/-- What may follow a number that has the given fraction or none. -/
def FractionEnds (fraction : Option (List Char)) (rest : List Char) : Prop :=
  (∀ c ∈ rest.head?, c.isDigit = false) ∧
    (fraction = none → ∀ c more, rest = '.' :: c :: more → c.isDigit = false)

/-- Behind digits, the longest fraction is split off. -/
theorem fractionText_splitFraction {cs : List Char} (stop : ∀ c ∈ cs.head?, c.isDigit = false) :
    ∃ fraction, (splitFraction cs).1 = fractionText fraction ∧
      (∀ ds, fraction = some ds → Digits ds) ∧ FractionEnds fraction (splitFraction cs).2 := by
  unfold splitFraction
  split
  · next more =>
    dsimp only
    split
    · next empty =>
      refine ⟨none, rfl, by simp, stop, ?_⟩
      rintro - c tail same
      rw [(List.cons.inj same).2, List.isEmpty_iff, List.takeWhile_cons] at empty
      by_contra digit
      simp [digit] at empty
    · next nonempty =>
      refine ⟨some (more.takeWhile Char.isDigit), rfl, ?_, ?_, by simp⟩
      · rintro ds ⟨rfl⟩
        exact ⟨by simpa using nonempty, fun c member => List.mem_takeWhile_imp member⟩
      · exact eq_false_of_mem_head?_dropWhile
  · next noPoint =>
    refine ⟨none, rfl, by simp, stop, ?_⟩
    rintro - c tail same
    exact absurd same (noPoint (c :: tail))

/-- A fraction is split off where no further digit stands behind it. -/
theorem splitFraction_append {fraction : Option (List Char)} {rest : List Char}
    (digits : ∀ ds, fraction = some ds → Digits ds) (ends : FractionEnds fraction rest) :
    splitFraction (fractionText fraction ++ rest) = (fractionText fraction, rest) := by
  obtain ⟨stop, noFraction⟩ := ends
  cases fraction with
  | some ds =>
    obtain ⟨nonempty, all⟩ := digits ds rfl
    obtain ⟨front, back⟩ := takeWhile_dropWhile_append all stop
    simp [fractionText, splitFraction, front, back, nonempty]
  | none =>
    rw [fractionText, List.nil_append]
    unfold splitFraction
    split
    · next more =>
      have noDigit : more.takeWhile Char.isDigit = [] := by
        cases more with
        | nil => rfl
        | cons c tail => simp [noFraction rfl c tail rfl]
      simp [noDigit]
    · rfl

/-- A number ends where its fraction, or the lack of one, says so. -/
theorem ends_number_iff {n : Numeral} {source rest : List Char} (spelled : n.Spelled source) :
    (number (String.ofList source)).Ends rest ↔ FractionEnds n.fraction rest := by
  have point : '.' ∉ source ↔ n.fraction = none := by
    rw [spelled.mem_point_iff, Bool.not_eq_true, Option.isSome_eq_false_iff,
      Option.isNone_iff_eq_none]
  simp only [Ends, FractionEnds, String.toList_ofList, point]

/-- The longest number at the front of a text is read. -/
theorem readNumber?_eq_some_iff {cs : List Char} {r : Reading} :
    readNumber? cs = some r ↔
      cs = r.source ++ r.rest ∧ r.lexeme = .number (String.ofList r.source) ∧
        (∃ n : Numeral, n.Spelled r.source) ∧ r.lexeme.Ends r.rest := by
  constructor
  · intro h
    refine ⟨(Reading.readNumber?_append h).1.symm, ?_⟩
    simp only [readNumber?] at h
    split at h
    · cases h
    · next nonempty =>
      cases h
      obtain ⟨negative, sign⟩ := sign_splitSign cs
      have whole : Digits ((splitSign cs).2.takeWhile Char.isDigit) :=
        ⟨by simpa using nonempty, fun c member => List.mem_takeWhile_imp member⟩
      obtain ⟨fraction, same, digits, ends⟩ :=
        fractionText_splitFraction (@eq_false_of_mem_head?_dropWhile _ (splitSign cs).2)
      have spelled := Numeral.Spelled.intro sign whole digits
      rw [← same, ← List.append_assoc] at spelled
      exact ⟨rfl, ⟨_, spelled⟩, (ends_number_iff spelled).mpr ends⟩
  · obtain ⟨lexeme, source, rest⟩ := r
    rintro ⟨rfl, same, ⟨n, spelled⟩, ends⟩
    dsimp only at same spelled ends ⊢
    subst same
    have fractionEnds := (ends_number_iff spelled).mp ends
    obtain @⟨negative, mark, whole, fraction, sign, wholeDigits, fractionDigits⟩ := spelled
    have stop : ∀ d ∈ (fractionText fraction ++ rest).head?, d.isDigit = false := by
      cases fraction with
      | none => exact fractionEnds.1
      | some ds => simp [fractionText]
    obtain ⟨front, back⟩ := takeWhile_dropWhile_append wholeDigits.2 stop
    have split := splitFraction_append fractionDigits fractionEnds
    have signed : splitSign (mark ++ (whole ++ (fractionText fraction ++ rest))) =
        (mark, whole ++ (fractionText fraction ++ rest)) := splitSign_append sign wholeDigits
    rw [List.append_assoc, List.append_assoc]
    simp [readNumber?, signed, front, back, split, wholeDigits.1]

/-! ### Tokens -/

/-- No token is empty, and its first character tells its category. -/
theorem Spelled.exists_cons {l : Lexeme} {source : List Char} (spelled : l.Spelled source) :
    ∃ c more, source = c :: more ∧
      (c ∈ ['(', ')', '_', '+', '-', '"'] ∨ c ∈ comparisonChars ∨ c.isAlpha = true ∨
        c.isDigit = true) := by
  cases spelled with
  | opening => exact ⟨_, _, rfl, by decide⟩
  | closing => exact ⟨_, _, rfl, by decide⟩
  | word start => exact ⟨_, _, rfl, by grind⟩
  | number numeral =>
    obtain ⟨sign, digits, -⟩ := numeral
    obtain ⟨c, more, rfl, digit⟩ := Digits.exists_cons digits
    cases sign with
    | minus => exact ⟨_, _, rfl, by decide⟩
    | plus => exact ⟨_, _, rfl, by decide⟩
    | absent => exact ⟨c, _, rfl, by grind⟩
  | text => exact ⟨_, _, rfl, by decide⟩
  | symbol nonempty comparisons =>
    obtain ⟨c, more, rfl⟩ := List.exists_cons_of_ne_nil nonempty
    have comparison := comparisons c List.mem_cons_self
    exact ⟨c, more, rfl, by grind⟩

/-- A word is read before a letter or a low line. -/
theorem read?_of_startsWord {c : Char} {more : List Char} (start : startsWord c = true) :
    read? (c :: more) = some ⟨.word (String.ofList ((c :: more).takeWhile continuesWord)),
      (c :: more).takeWhile continuesWord, (c :: more).dropWhile continuesWord⟩ := by
  unfold read?
  split
  · next same => cases same
  · next same => cases same; exact absurd start (by decide)
  · next same => cases same; exact absurd start (by decide)
  · next same => cases same; exact absurd start (by decide)
  · next same => cases same; exact if_pos start

theorem apart_of_mem_comparisonChars {c : Char} (comparison : c ∈ comparisonChars) :
    c ∉ ['(', ')', '"'] ∧ startsWord c = false := by
  simp only [comparisonChars, List.mem_cons, List.not_mem_nil, or_false] at comparison
  rcases comparison with rfl | rfl | rfl | rfl <;> decide

/-- The letters of ASCII by their numbers. -/
theorem isAlpha_iff {c : Char} :
    c.isAlpha = true ↔ 65 ≤ c.toNat ∧ c.toNat ≤ 90 ∨ 97 ≤ c.toNat ∧ c.toNat ≤ 122 := by
  have upper : c.isUpper = true ↔ 65 ≤ c.toNat ∧ c.toNat ≤ 90 := decide_eq_true_iff
  have lower : c.isLower = true ↔ 97 ≤ c.toNat ∧ c.toNat ≤ 122 :=
    Bool.and_eq_true_iff.trans (and_congr decide_eq_true_iff decide_eq_true_iff)
  exact Bool.or_eq_true_iff.trans (or_congr upper lower)

/-- The digits of ASCII by their numbers. -/
theorem isDigit_iff {c : Char} : c.isDigit = true ↔ 48 ≤ c.toNat ∧ c.toNat ≤ 57 :=
  Bool.and_eq_true_iff.trans (and_congr decide_eq_true_iff decide_eq_true_iff)

theorem isAlpha_eq_false_of_isDigit {c : Char} (digit : c.isDigit = true) :
    c.isAlpha = false := by
  rw [← Bool.not_eq_true]
  intro letter
  rw [isDigit_iff] at digit
  rw [isAlpha_iff] at letter
  omega

theorem apart_of_isDigit {c : Char} (digit : c.isDigit = true) :
    c ∉ ['(', ')', '"'] ∧ startsWord c = false ∧ isComparison c = false := by
  have apart : ∀ d : Char, d.isDigit = false → c ≠ d := by
    rintro d noDigit rfl
    rw [digit] at noDigit
    cases noDigit
  have noLetter := isAlpha_eq_false_of_isDigit digit
  refine ⟨?_, ?_, ?_⟩
  · simp [apart]
  · simp [startsWord, noLetter, apart]
  · simp [isComparison, apart]

/-- A number begins with a sign or a digit, so it is not taken for anything else. -/
theorem apart_of_numeral {n : Numeral} {cs : List Char} (numeral : n.Spelled cs) :
    ∃ c more, cs = c :: more ∧ c ∉ ['(', ')', '"'] ∧ startsWord c = false ∧
      isComparison c = false := by
  obtain ⟨sign, digits, -⟩ := numeral
  obtain ⟨c, more, rfl, digit⟩ := Digits.exists_cons digits
  cases sign with
  | minus => exact ⟨_, _, rfl, by decide⟩
  | plus => exact ⟨_, _, rfl, by decide⟩
  | absent => exact ⟨c, _, rfl, apart_of_isDigit digit⟩

/-- What begins neither a parenthesis, a quoted text nor a word is a run of comparison
characters or a number, if it is anything. -/
theorem read?_of_other {c : Char} {more : List Char} (other : c ∉ ['(', ')', '"'])
    (noWord : startsWord c = false) :
    read? (c :: more) =
      if isComparison c then
        some ⟨.symbol (String.ofList ((c :: more).takeWhile isComparison)),
          (c :: more).takeWhile isComparison, (c :: more).dropWhile isComparison⟩
      else readNumber? (c :: more) := by
  unfold read?
  split
  · next same => cases same
  · next same => cases same; exact absurd other (by decide)
  · next same => cases same; exact absurd other (by decide)
  · next same => cases same; exact absurd other (by decide)
  · next same => cases same; simp [noWord]

/-- The longest token at the front of a text is read. -/
theorem read?_eq_some_iff {cs : List Char} {r : Reading} :
    read? cs = some r ↔
      cs = r.source ++ r.rest ∧ r.lexeme.Spelled r.source ∧ r.lexeme.Ends r.rest := by
  constructor
  · intro h
    refine ⟨(Reading.source_append_rest h).1.symm, ?_⟩
    unfold read? at h
    split at h
    · cases h
    · cases h; exact ⟨.opening, trivial⟩
    · cases h; exact ⟨.closing, trivial⟩
    · obtain ⟨⟨content, source, rest⟩, read, same⟩ := Option.map_eq_some_iff.mp h
      cases same
      obtain ⟨body, quoted, rfl, -⟩ := readQuoted?_eq_some_iff.mp read
      exact ⟨.text quoted, trivial⟩
    · next c rest _ _ _ =>
      split at h
      · next start =>
        cases h
        have continued := Reading.continuesWord_of_startsWord start
        refine ⟨?_, fun d first =>
          continuesWord_eq_false_iff.mp (eq_false_of_mem_head?_dropWhile d first)⟩
        simp only [List.takeWhile_cons, continued, if_true]
        exact .word (startsWord_iff.mp start) fun d member =>
          continuesWord_iff.mp (List.mem_takeWhile_imp member)
      · split at h
        · next start =>
          cases h
          refine ⟨.symbol (Reading.takeWhile_ne_nil start) fun d member => ?_, fun d first => ?_⟩
          · exact isComparison_iff.mp (List.mem_takeWhile_imp member)
          · exact isComparison_eq_false_iff.mp (eq_false_of_mem_head?_dropWhile d first)
        · obtain ⟨-, same, ⟨n, spelled⟩, ends⟩ := readNumber?_eq_some_iff.mp h
          rw [same] at ends ⊢
          exact ⟨.number spelled, ends⟩
  · obtain ⟨lexeme, source, rest⟩ := r
    rintro ⟨rfl, spelled, ends⟩
    dsimp only at spelled ends ⊢
    -- the first character leaves only the reader of the token's own category
    cases spelled with
    | opening => rfl
    | closing => rfl
    | @text content body quoted =>
      have read : readQuoted? (body ++ ['"'] ++ rest) = some (content, body ++ ['"'], rest) :=
        readQuoted?_eq_some_iff.mpr ⟨body, quoted, rfl, rfl⟩
      rw [List.cons_append, read?, read]
      rfl
    | @word c more start continued =>
      have inside : ∀ d ∈ c :: more, continuesWord d = true := by
        intro d member
        rcases List.mem_cons.mp member with rfl | later
        · exact Reading.continuesWord_of_startsWord (startsWord_iff.mpr start)
        · exact continuesWord_iff.mpr (continued d later)
      have stop : ∀ d ∈ rest.head?, continuesWord d = false := fun d first =>
        continuesWord_eq_false_iff.mpr (ends d first)
      obtain ⟨front, back⟩ := takeWhile_dropWhile_append inside stop
      rw [List.cons_append] at front back ⊢
      rw [read?_of_startsWord (startsWord_iff.mpr start), front, back]
    | symbol nonempty comparisons =>
      have inside : ∀ d ∈ source, isComparison d = true := fun d member =>
        isComparison_iff.mpr (comparisons d member)
      have stop : ∀ d ∈ rest.head?, isComparison d = false := fun d first =>
        isComparison_eq_false_iff.mpr (ends d first)
      obtain ⟨front, back⟩ := takeWhile_dropWhile_append inside stop
      obtain ⟨c, more, rfl⟩ := List.exists_cons_of_ne_nil nonempty
      rw [List.cons_append] at front back ⊢
      obtain ⟨other, noWord⟩ := apart_of_mem_comparisonChars (comparisons c List.mem_cons_self)
      rw [read?_of_other other noWord, if_pos (inside c List.mem_cons_self), front, back]
    | number numeral =>
      have read : readNumber? (source ++ rest) = some ⟨_, source, rest⟩ :=
        readNumber?_eq_some_iff.mpr ⟨rfl, rfl, ⟨_, numeral⟩, ends⟩
      obtain ⟨c, more, rfl, other, noWord, noComparison⟩ := apart_of_numeral numeral
      rw [List.cons_append] at read ⊢
      rw [read?_of_other other noWord, if_neg (by simp [noComparison]), read]

/-- The characters of a text fix the token in front, and where it ends. -/
theorem Spelled.unique {l other : Lexeme} {source otherSource rest otherRest : List Char}
    (spelled : l.Spelled source) (ends : l.Ends rest) (otherSpelled : other.Spelled otherSource)
    (otherEnds : other.Ends otherRest) (same : source ++ rest = otherSource ++ otherRest) :
    l = other ∧ source = otherSource ∧ rest = otherRest := by
  have read : read? (source ++ rest) = some ⟨l, source, rest⟩ :=
    read?_eq_some_iff.mpr ⟨rfl, spelled, ends⟩
  have again : read? (source ++ rest) = some ⟨other, otherSource, otherRest⟩ :=
    read?_eq_some_iff.mpr ⟨same, otherSpelled, otherEnds⟩
  rw [read] at again
  cases again
  exact ⟨rfl, rfl, rfl⟩

/-! ### Where no token starts -/

theorem readQuoted?_eq_none_iff {cs : List Char} :
    readQuoted? cs = none ↔
      ¬ ∃ content source more, Quoted content source ∧ cs = source ++ '"' :: more := by
  constructor
  · rintro unread ⟨content, source, more, quoted, rfl⟩
    have read : readQuoted? (source ++ '"' :: more) = some (content, source ++ ['"'], more) :=
      readQuoted?_eq_some_iff.mpr ⟨source, quoted, rfl, by simp⟩
    rw [unread] at read
    cases read
  · intro open_
    by_contra read
    obtain ⟨⟨content, source, more⟩, read⟩ := Option.ne_none_iff_exists'.mp read
    obtain ⟨body, quoted, rfl, rfl⟩ := readQuoted?_eq_some_iff.mp read
    exact open_ ⟨content, body, more, quoted, by simp⟩

/-- No number is read where no digit stands, behind a sign or without one. -/
theorem readNumber?_eq_none_iff {cs : List Char} :
    readNumber? cs = none ↔ ∀ d ∈ (splitSign cs).2.head?, d.isDigit = false := by
  unfold readNumber?
  rcases splitSign cs with ⟨sign, unsigned⟩
  cases unsigned with
  | nil => simp
  | cons d more => simp [List.takeWhile_cons]

/-- Nothing is read exactly where no token can start. -/
theorem read?_eq_none_iff {c : Char} {rest : List Char} :
    read? (c :: rest) = none ↔ NoStart c rest := by
  by_cases parenthesis : c = '(' ∨ c = ')'
  · rcases parenthesis with rfl | rfl <;> simp [read?, NoStart]
  by_cases mark : c = '"'
  · subst mark
    simp [read?, NoStart, readQuoted?_eq_none_iff]
  have other : c ∉ ['(', ')', '"'] := by simpa [not_or, and_assoc] using And.intro parenthesis mark
  by_cases sign : c = '+' ∨ c = '-'
  · rcases sign with rfl | rfl <;>
      simp [read?_of_other, startsWord, isComparison, readNumber?_eq_none_iff, splitSign, NoStart]
  have unsigned : splitSign (c :: rest) = ([], c :: rest) := by
    unfold splitSign
    split
    · next same => cases same; exact absurd (.inl rfl) sign
    · next same => cases same; exact absurd (.inr rfl) sign
    · rfl
  have noStart : NoStart c rest ↔
      startsWord c = false ∧ isComparison c = false ∧ c.isDigit = false := by
    rw [isComparison_eq_false_iff, startsWord, Bool.or_eq_false_iff, beq_eq_false_iff_ne]
    simp only [NoStart, List.mem_cons, List.not_mem_nil, or_false, not_or] at *
    grind
  rw [noStart]
  cases word : startsWord c with
  | true => simp [read?_of_startsWord word]
  | false =>
    rw [read?_of_other other word]
    cases isComparison c with
    | true => simp
    | false => simp [readNumber?_eq_none_iff, unsigned]

end Lexeme

end RecordFilter
