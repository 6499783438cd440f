import RecordFilter.Expression.Literal

/-!
# The spelling of literals

Which tokens are literals of a kind, and of what values, said without reading them: a
number is a sign, digits and possibly a point with more digits, and a kind says which of
these are its own. Where no kind is given the spelling of a token decides it.

## Main definitions

* `Numeral.Spelled`: the characters that spell a number
* `Kind.Literal`: the tokens that are literals of a kind
* `Lexeme.Literal`: the same, where the kind may be unknown

## Main results

* `Numeral.read?_eq_some_iff`: exactly the spellings of numbers are read
* `literal?_eq_some_iff`: exactly the literals are read
* `Kind.Literal.kind_eq`: a literal of a kind is a value of that kind
-/

namespace RecordFilter

namespace Numeral

/-- At least one digit, and nothing else. -/
def Digits (cs : List Char) : Prop := cs ≠ [] ∧ ∀ c ∈ cs, c.isDigit = true

/-- The signs of a number. Only a minus sign makes it negative. -/
inductive Sign : Bool → List Char → Prop
  | minus : Sign true ['-']
  | plus : Sign false ['+']
  | absent : Sign false []

/-- A fraction with its point, or nothing. -/
def fractionText : Option (List Char) → List Char
  | none => []
  | some digits => '.' :: digits

/-- The number is spelled by the characters. -/
inductive Spelled : Numeral → List Char → Prop
  | intro {negative : Bool} {mark whole : List Char} {fraction : Option (List Char)}
      (sign : Sign negative mark) (wholeDigits : Digits whole)
      (fractionDigits : ∀ ds, fraction = some ds → Digits ds) :
      Spelled ⟨negative, whole, fraction⟩ (mark ++ (whole ++ fractionText fraction))

theorem takeWhile_isDigit_append {whole more : List Char}
    (digits : ∀ c ∈ whole, c.isDigit = true) (stop : more.takeWhile Char.isDigit = []) :
    (whole ++ more).takeWhile Char.isDigit = whole := by
  rw [List.takeWhile_append_of_pos digits, stop, List.append_nil]

theorem dropWhile_isDigit_append {whole more : List Char}
    (digits : ∀ c ∈ whole, c.isDigit = true) (stop : more.dropWhile Char.isDigit = more) :
    (whole ++ more).dropWhile Char.isDigit = more := by
  rw [List.dropWhile_append_of_pos digits, stop]

theorem takeWhile_fractionText (fraction : Option (List Char)) :
    (fractionText fraction).takeWhile Char.isDigit = [] := by
  cases fraction <;> rfl

theorem dropWhile_fractionText (fraction : Option (List Char)) :
    (fractionText fraction).dropWhile Char.isDigit = fractionText fraction := by
  cases fraction <;> rfl

/-- A number without a sign is read exactly if it is digits and possibly a fraction. -/
theorem readUnsigned?_eq_some_iff {negative : Bool} {cs : List Char} {n : Numeral} :
    readUnsigned? negative cs = some n ↔
      ∃ whole fraction, Digits whole ∧ (∀ ds, fraction = some ds → Digits ds) ∧
        cs = whole ++ fractionText fraction ∧ n = ⟨negative, whole, fraction⟩ := by
  constructor
  · intro h
    have whole : cs.takeWhile Char.isDigit ++ cs.dropWhile Char.isDigit = cs :=
      List.takeWhile_append_dropWhile
    unfold readUnsigned? at h
    dsimp only at h
    split at h
    · cases h
    · next nonempty =>
      have digits : Digits (cs.takeWhile Char.isDigit) :=
        ⟨by simpa using nonempty, List.all_eq_true.mp List.all_takeWhile⟩
      split at h
      · next stop =>
        cases h
        rw [stop] at whole
        exact ⟨_, none, digits, by simp, whole.symm, rfl⟩
      · next fraction stop =>
        split at h
        · next fractionDigits =>
          cases h
          rw [stop] at whole
          refine ⟨_, some fraction, digits, ?_, whole.symm, rfl⟩
          rintro ds ⟨rfl⟩
          simpa [Digits] using fractionDigits
        · cases h
      · cases h
  · rintro ⟨whole, fraction, digits, fractionDigits, rfl, rfl⟩
    have front := takeWhile_isDigit_append digits.2 (takeWhile_fractionText fraction)
    have back := dropWhile_isDigit_append digits.2 (dropWhile_fractionText fraction)
    unfold readUnsigned?
    dsimp only
    rw [front, back, if_neg (by simpa using digits.1)]
    cases fraction with
    | none => rfl
    | some ds =>
      have later := fractionDigits ds rfl
      exact if_pos (by simpa [Digits] using later)

/-- Exactly the spellings of numbers are read, each as the number it spells. -/
theorem read?_eq_some_iff {cs : List Char} {n : Numeral} : read? cs = some n ↔ n.Spelled cs := by
  constructor
  · intro h
    unfold read? at h
    split at h
    · obtain ⟨whole, fraction, digits, later, rfl, rfl⟩ := readUnsigned?_eq_some_iff.mp h
      exact .intro .minus digits later
    · obtain ⟨whole, fraction, digits, later, rfl, rfl⟩ := readUnsigned?_eq_some_iff.mp h
      exact .intro .plus digits later
    · obtain ⟨whole, fraction, digits, later, rfl, rfl⟩ := readUnsigned?_eq_some_iff.mp h
      exact .intro .absent digits later
  · rintro ⟨sign, digits, later⟩
    rename_i negative mark whole fraction
    have unsigned := (@readUnsigned?_eq_some_iff negative _ _).mpr
      ⟨whole, fraction, digits, later, rfl, rfl⟩
    cases sign with
    | minus => exact unsigned
    | plus => exact unsigned
    | absent =>
      obtain ⟨nonempty, allDigits⟩ := digits
      cases whole with
      | nil => exact absurd rfl nonempty
      | cons c rest =>
        have digit := allDigits c List.mem_cons_self
        rw [List.nil_append, List.cons_append] at *
        unfold read?
        split
        · next same => rw [(List.cons.inj same).1] at digit; exact absurd digit (by decide)
        · next same => rw [(List.cons.inj same).1] at digit; exact absurd digit (by decide)
        · exact unsigned

/-- A number is written with a point exactly if it has a fraction. -/
theorem Spelled.mem_point_iff {cs : List Char} {n : Numeral} (h : n.Spelled cs) :
    '.' ∈ cs ↔ n.fraction.isSome = true := by
  obtain ⟨sign, digits, -⟩ := h
  rename_i mark whole fraction
  have notInMark : '.' ∉ mark := by cases sign <;> decide
  have notInWhole : '.' ∉ whole := fun member => absurd (digits.2 _ member) (by decide)
  cases fraction <;> simp [fractionText, notInMark, notInWhole]

end Numeral

/-- The token is a literal of the kind, for the value. -/
inductive Kind.Literal : Kind → Lexeme → Value → Prop
  /-- An integer has no fraction and is in range, and no unsigned kind takes a minus sign. -/
  | int {k : IntKind} {s : String} {n : Numeral} {i : Int} (spelled : n.Spelled s.toList)
      (unsigned : k.signed = false → n.negative = false) (whole : n.toInt? = some i)
      (inRange : k.Contains i) : Literal (.int k) (.number s) (.int k i inRange)
  /-- Any number stands for the nearest one of the format. -/
  | single {s : String} {n : Numeral} (spelled : n.Spelled s.toList) :
      Literal .single (.number s) (.single (.ofNumeral _ n))
  | double {s : String} {n : Numeral} (spelled : n.Spelled s.toList) :
      Literal .double (.number s) (.double (.ofNumeral _ n))
  | true {s : String} (spelled : s.toLower = "true") : Literal .bool (.word s) (.bool true)
  | false {s : String} (spelled : s.toLower = "false") : Literal .bool (.word s) (.bool false)
  | text (s : String) : Literal .text (.text s) (.text s)

namespace Kind

/-- A literal of a kind is a value of that kind. -/
theorem Literal.kind_eq {kind : Kind} {l : Lexeme} {v : Value} (h : Literal kind l v) :
    v.kind = kind := by
  cases h <;> rfl

theorem truthLiteral?_eq_some_iff {s : String} {b : Bool} :
    truthLiteral? s = some b ↔
      s.toLower = "true" ∧ b = true ∨ s.toLower = "false" ∧ b = false := by
  unfold truthLiteral?
  by_cases isTrue : s.toLower = "true"
  · cases b <;> simp [isTrue]
  · by_cases isFalse : s.toLower = "false" <;> cases b <;> simp [isTrue, isFalse]

/-- The integers that are read are those that a numeral denotes and that the kind holds. -/
theorem intLiteral?_eq_some_iff {k : IntKind} {n : Numeral} {v : Value} :
    k.literal? n = some v ↔ (k.signed = false → n.negative = false) ∧
      ∃ i, n.toInt? = some i ∧ ∃ inRange, v = .int k i inRange := by
  by_cases refused : k.signed = false ∧ n.negative = true
  · simp [IntKind.literal?, refused]
  · have accepted : k.signed = false → n.negative = false := fun unsigned =>
      Bool.eq_false_iff.mpr fun negative => refused ⟨unsigned, negative⟩
    have guard : (n.negative && !k.signed) = false := by
      cases h : k.signed <;> simp [h, accepted]
    simp only [IntKind.literal?, guard, Bool.false_eq_true, if_false, Option.bind_eq_some_iff]
    constructor
    · rintro ⟨i, whole, ranged⟩
      unfold Value.int? at ranged
      split at ranged
      · next inRange => exact ⟨accepted, i, whole, inRange, (Option.some.inj ranged).symm⟩
      · cases ranged
    · rintro ⟨-, i, whole, inRange, rfl⟩
      exact ⟨i, whole, dif_pos inRange⟩

/-- Exactly the literals of a kind are read, each as the value it stands for. -/
theorem literal?_eq_some_iff {kind : Kind} {l : Lexeme} {v : Value} :
    kind.literal? l = some v ↔ kind.Literal l v := by
  constructor
  · intro h
    unfold Kind.literal? at h
    split at h
    · obtain ⟨n, read, value⟩ := Option.bind_eq_some_iff.mp h
      obtain ⟨unsigned, i, whole, inRange, rfl⟩ := intLiteral?_eq_some_iff.mp value
      exact .int (Numeral.read?_eq_some_iff.mp read) unsigned whole inRange
    · obtain ⟨n, read, rfl⟩ := Option.map_eq_some_iff.mp h
      exact .single (Numeral.read?_eq_some_iff.mp read)
    · obtain ⟨n, read, rfl⟩ := Option.map_eq_some_iff.mp h
      exact .double (Numeral.read?_eq_some_iff.mp read)
    · obtain ⟨b, truth, rfl⟩ := Option.map_eq_some_iff.mp h
      rcases truthLiteral?_eq_some_iff.mp truth with ⟨spelled, rfl⟩ | ⟨spelled, rfl⟩
      · exact .true spelled
      · exact .false spelled
    · cases h; exact .text _
    · cases h
  · intro h
    cases h with
    | int spelled unsigned whole inRange =>
      have value := intLiteral?_eq_some_iff.mpr ⟨unsigned, _, whole, inRange, rfl⟩
      simp [Kind.literal?, Numeral.read?_eq_some_iff.mpr spelled, value]
    | single spelled => simp [Kind.literal?, Numeral.read?_eq_some_iff.mpr spelled]
    | double spelled => simp [Kind.literal?, Numeral.read?_eq_some_iff.mpr spelled]
    | true spelled =>
      simp [Kind.literal?, truthLiteral?_eq_some_iff.mpr (Or.inl ⟨spelled, rfl⟩)]
    | false spelled =>
      simp [Kind.literal?, truthLiteral?_eq_some_iff.mpr (Or.inr ⟨spelled, rfl⟩)]
    | text s => rfl

end Kind

/-- The kind of which a token is a literal by its spelling. -/
inductive Lexeme.KindBySpelling : Lexeme → Kind → Prop
  | double {s : String} (point : '.' ∈ s.toList) : KindBySpelling (.number s) .double
  | integer {s : String} (plain : '.' ∉ s.toList) : KindBySpelling (.number s) (.int .i64)
  | bool (s : String) : KindBySpelling (.word s) .bool
  | text (s : String) : KindBySpelling (.text s) .text

/-- The token is a literal for the value: of the given kind, or of the kind that its
spelling decides if none is given. -/
def Lexeme.Literal (l : Lexeme) : Option Kind → Value → Prop
  | some kind, v => kind.Literal l v
  | none, v => ∃ kind, l.KindBySpelling kind ∧ kind.Literal l v

namespace Lexeme

/-- A parenthesis is no literal, so it can end a list of them. -/
theorem not_literal_closing {kind : Option Kind} {v : Value} : ¬ closing.Literal kind v := by
  intro literal
  cases kind with
  | some kind => cases literal
  | none =>
    obtain ⟨kind, spelling, -⟩ := literal
    cases spelling

/-- Without a kind, a token is read as a literal of the kind that its spelling decides. -/
theorem literal?_eq_some_iff_of_spelling {l : Lexeme} {v : Value} :
    l.literal? = some v ↔ ∃ kind, l.KindBySpelling kind ∧ kind.Literal l v := by
  constructor
  · intro h
    unfold Lexeme.literal? at h
    split at h
    · next s =>
      split at h
      · cases h
      · next n read =>
        have spelled := Numeral.read?_eq_some_iff.mp read
        split at h
        · next hasFraction =>
          cases h
          exact ⟨_, .double (spelled.mem_point_iff.mpr hasFraction), .double spelled⟩
        · next noFraction =>
          refine ⟨_, .integer fun point => noFraction (spelled.mem_point_iff.mp point), ?_⟩
          obtain ⟨unsigned, i, whole, inRange, rfl⟩ := Kind.intLiteral?_eq_some_iff.mp h
          exact .int spelled unsigned whole inRange
    · cases h; exact ⟨_, .text _, .text _⟩
    · exact ⟨_, .bool _, Kind.literal?_eq_some_iff.mp h⟩
    · cases h
  · rintro ⟨kind, spelling, literal⟩
    cases spelling with
    | double point =>
      cases literal with
      | double spelled =>
        have hasFraction := spelled.mem_point_iff.mp point
        simp [Lexeme.literal?, Numeral.read?_eq_some_iff.mpr spelled, hasFraction]
    | integer plain =>
      cases literal with
      | int spelled unsigned whole inRange =>
        have value := Kind.intLiteral?_eq_some_iff.mpr ⟨unsigned, _, whole, inRange, rfl⟩
        have noFraction := fun hasFraction => plain (spelled.mem_point_iff.mpr hasFraction)
        unfold Lexeme.literal?
        dsimp only
        rw [Numeral.read?_eq_some_iff.mpr spelled, ← value]
        exact if_neg noFraction
    | bool s => exact Kind.literal?_eq_some_iff.mpr literal
    | text s => exact Kind.literal?_eq_some_iff.mpr literal

end Lexeme

/-- Exactly the literals are read, each as the value it stands for. -/
theorem literal?_eq_some_iff {kind : Option Kind} {l : Lexeme} {v : Value} :
    literal? kind l = some v ↔ l.Literal kind v := by
  cases kind with
  | some kind => exact Kind.literal?_eq_some_iff
  | none => exact Lexeme.literal?_eq_some_iff_of_spelling

end RecordFilter
