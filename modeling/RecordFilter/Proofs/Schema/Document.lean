import Mathlib.Data.List.TakeWhile
import RecordFilter.Schema.Document

/-!
# Documents of schemas

A grammar of the objects that give names to names, given by their forms: where blanks may stand,
how characters are escaped, how the name of a kind may be put into an object of its own. The reader
takes the forms of the grammar and no other text, and what is written is one of the forms, whatever
characters the names have. So the codec reads what it writes.

## Main definitions

* `Document.CharWritten`, `Document.CharsWritten`: the forms of characters in a string
* `Document.KindWritten`, `Document.FieldWritten`, `Document.Written`: the forms of a kind, of a
  field and of a document

## Main results

* `Document.read?_eq_some_iff`: documents are read exactly from their forms
* `Document.written_write`: what is written is a form
* `Document.faithful_codec`: the codec is faithful
-/

namespace RecordFilter.Schema.Document

/-! ### Grammar -/

/-- Blanks only. -/
def IsGap (cs : List Char) : Prop := ∀ c ∈ cs, isBlank c = true

/-- The forms of a character inside the marks of a string. Marks, backslashes and controls are
escaped, and any character may be given by its code units. -/
inductive CharWritten : Char → List Char → Prop
  | plain {c : Char} (noMark : c ≠ '"') (noEscape : c ≠ '\\') (noControl : 0x20 ≤ c.toNat) :
      CharWritten c [c]
  | short {c d : Char} (stands : escape? d = some c) : CharWritten c ['\\', d]
  | unit {n : Nat} {a b c d : Char} (value : Text.hexValue? [a, b, c, d] = some n)
      (alone : n.isValidChar) : CharWritten (Char.ofNat n) ['\\', 'u', a, b, c, d]
  | pair {high low : Nat} {a b c d a' b' c' d' x : Char}
      (first : Text.hexValue? [a, b, c, d] = some high)
      (second : Text.hexValue? [a', b', c', d'] = some low)
      (paired : pairedChar? high low = some x) :
      CharWritten x ['\\', 'u', a, b, c, d, '\\', 'u', a', b', c', d']

/-- The forms of a row of characters inside the marks of a string. -/
inductive CharsWritten : List Char → List Char → Prop
  | nil : CharsWritten [] []
  | cons {c : Char} {cs form forms : List Char} (first : CharWritten c form)
      (rest : CharsWritten cs forms) : CharsWritten (c :: cs) (form ++ forms)

/-- A mark, and blanks after it. -/
inductive MarkWritten (mark : Char) : List Char → Prop
  | intro {gap : List Char} (blank : IsGap gap) : MarkWritten mark (mark :: gap)

/-- A string between its marks, and blanks after it. -/
inductive TextWritten (s : String) : List Char → Prop
  | intro {forms gap : List Char} (content : CharsWritten s.toList forms) (blank : IsGap gap) :
      TextWritten s ('"' :: forms ++ '"' :: gap)

/-- The empty content, and blanks after it. -/
inductive NullWritten : List Char → Prop
  | intro {gap : List Char} (blank : IsGap gap) : NullWritten ('n' :: 'u' :: 'l' :: 'l' :: gap)

/-- A kind by one of its spellings, alone or as the one key of an object. -/
inductive KindWritten (spelling : String) : List Char → Prop
  | text {cs : List Char} (text : TextWritten spelling cs) : KindWritten spelling cs
  | object {opening key colon content closing : List Char} (opens : MarkWritten '\x7b' opening)
      (text : TextWritten spelling key) (separates : MarkWritten ':' colon)
      (null : NullWritten content) (closes : MarkWritten '\x7d' closing) :
      KindWritten spelling (opening ++ key ++ colon ++ content ++ closing)

/-- A field: its name, and a spelling of its kind. -/
inductive FieldWritten : String × String → List Char → Prop
  | intro {name spelling : String} {key colon value : List Char} (text : TextWritten name key)
      (separates : MarkWritten ':' colon) (kind : KindWritten spelling value) :
      FieldWritten (name, spelling) (key ++ colon ++ value)

/-- Fields between commas, at least one. -/
inductive RowWritten : List (String × String) → List Char → Prop
  | last {field : String × String} {cs : List Char} (written : FieldWritten field cs) :
      RowWritten [field] cs
  | cons {field : String × String} {fields : List (String × String)} {cs comma rest : List Char}
      (written : FieldWritten field cs) (separates : MarkWritten ',' comma)
      (later : RowWritten fields rest) : RowWritten (field :: fields) (cs ++ comma ++ rest)

/-- A document: an object with these fields, which may be none. -/
inductive Written : List (String × String) → List Char → Prop
  | empty {gap opening closing : List Char} (blank : IsGap gap) (opens : MarkWritten '\x7b' opening)
      (closes : MarkWritten '\x7d' closing) : Written [] (gap ++ opening ++ closing)
  | row {fields : List (String × String)} {gap opening cs closing : List Char} (blank : IsGap gap)
      (opens : MarkWritten '\x7b' opening) (written : RowWritten fields cs)
      (closes : MarkWritten '\x7d' closing) : Written fields (gap ++ opening ++ cs ++ closing)

/-! ### Gaps -/

variable {c mark : Char} {cs gap rest form content : List Char}

theorem skipBlanks_append (blank : IsGap gap) (rest : List Char) :
    skipBlanks (gap ++ rest) = skipBlanks rest :=
  List.dropWhile_append_of_pos blank

theorem skipBlanks_cons (nonBlank : isBlank c = false) (rest : List Char) :
    skipBlanks (c :: rest) = c :: rest := by
  rw [skipBlanks, List.dropWhile_cons_of_neg (by simp [nonBlank])]

theorem exists_gap (cs : List Char) : ∃ gap, IsGap gap ∧ cs = gap ++ skipBlanks cs :=
  ⟨cs.takeWhile isBlank, fun _ member => List.mem_takeWhile_imp member,
    List.takeWhile_append_dropWhile.symm⟩

/-! ### Strings -/

/-- The first unit of a pair is no character. -/
theorem not_isValidChar_of_pairedChar? {high low : Nat} (paired : pairedChar? high low = some c) :
    ¬ high.isValidChar := by
  unfold pairedChar? at paired
  split at paired
  · simp only [Nat.isValidChar]
    omega
  · cases paired

/-- A character is read from each of its forms. -/
theorem CharWritten.readString?_append (written : CharWritten c form) (rest : List Char) :
    readString? (form ++ rest) =
      (readString? rest).map fun (content, rest) => (c :: content, rest) := by
  cases written with
  | plain noMark noEscape noControl => simp [readString?, noEscape, Nat.not_lt.mpr noControl]
  | @short c d stands =>
    have noUnit : d ≠ 'u' := by
      rintro rfl
      cases stands
    simp [readString?, noUnit, stands]
  | unit value alone => simp [readString?, value, alone]
  | pair first second paired =>
    simp [readString?, first, second, paired, not_isValidChar_of_pairedChar? paired]

/-- A string is read from each of its forms, up to the mark that ends it. -/
theorem CharsWritten.readString?_append (written : CharsWritten content form) (rest : List Char) :
    readString? (form ++ '"' :: rest) = some (content, rest) := by
  induction written with
  | nil => rfl
  | cons first _ ih =>
    rw [List.append_assoc, first.readString?_append, ih]
    rfl

/-- What is read of a string, written in front of what was read already. -/
theorem exists_charsWritten_cons {read : Option (List Char × List Char)}
    (first : CharWritten c form)
    (later : ∀ content rest, read = some (content, rest) →
      ∃ forms, CharsWritten content forms ∧ cs = forms ++ '"' :: rest)
    (both : (read.map fun (content, rest) => (c :: content, rest)) = some (content, rest)) :
    ∃ forms, CharsWritten content forms ∧ form ++ cs = forms ++ '"' :: rest := by
  obtain ⟨⟨more, after⟩, same, pair⟩ := Option.map_eq_some_iff.mp both
  cases pair
  obtain ⟨forms, written, rfl⟩ := later more rest same
  exact ⟨form ++ forms, .cons first written, (List.append_assoc ..).symm⟩

/-- What is read of a string is one of its forms, up to the mark that ends it. -/
theorem exists_charsWritten (read : readString? cs = some (content, rest)) :
    ∃ form, CharsWritten content form ∧ cs = form ++ '"' :: rest := by
  fun_induction readString? cs generalizing content rest with
  | case1 => cases read
  | case2 =>
    cases read
    exact ⟨[], .nil, rfl⟩
  | case3 => cases read
  | case4 a b c d more n value alone ih =>
    exact exists_charsWritten_cons (.unit value alone) (fun _ _ => ih) read
  | case5 => cases read
  | case6 a b c d high first alone a' b' c' d' more x paired ih =>
    obtain ⟨low, second, pair⟩ := Option.bind_eq_some_iff.mp paired
    exact exists_charsWritten_cons (.pair first second pair) (fun _ _ => ih) read
  | case7 => cases read
  | case8 => cases read
  | case9 d more noUnit c stands ih =>
    exact exists_charsWritten_cons (.short stands) (fun _ _ => ih) read
  | case10 => cases read
  | case11 c more noMark noUnit noShort plain ih =>
    have form : CharWritten c [c] :=
      .plain noMark (mt .inl plain) (Nat.le_of_not_lt (mt .inr plain))
    exact exists_charsWritten_cons form (fun _ _ => ih) read

/-! ### Parts -/

theorem MarkWritten.readMark?_append (written : MarkWritten mark cs) (rest : List Char) :
    readMark? mark (cs ++ rest) = some (skipBlanks rest) := by
  obtain ⟨blank⟩ := written
  simp [readMark?, skipBlanks_append blank]

theorem exists_markWritten (read : readMark? mark cs = some rest) :
    ∃ form, MarkWritten mark form ∧ cs = form ++ rest := by
  unfold readMark? at read
  split at read
  · split at read
    · next same =>
      cases read
      obtain ⟨gap, blank, whole⟩ := exists_gap _
      exact ⟨_, .intro blank, by rw [same, List.cons_append, ← whole]⟩
    · cases read
  · cases read

/-- A mark that is no blank is not skipped. -/
theorem MarkWritten.skipBlanks_append (written : MarkWritten mark cs)
    (nonBlank : isBlank mark = false) (rest : List Char) :
    skipBlanks (cs ++ rest) = cs ++ rest := by
  obtain ⟨-⟩ := written
  exact skipBlanks_cons nonBlank _

theorem MarkWritten.readMark?_self (written : MarkWritten mark cs) :
    readMark? mark cs = some [] := by
  simpa [skipBlanks] using written.readMark?_append []

theorem MarkWritten.skipBlanks_self (written : MarkWritten mark cs)
    (nonBlank : isBlank mark = false) : skipBlanks cs = cs := by
  simpa using written.skipBlanks_append nonBlank []

theorem TextWritten.readText?_append {s : String} (written : TextWritten s cs)
    (rest : List Char) : readText? (cs ++ rest) = some (s, skipBlanks rest) := by
  obtain ⟨content, blank⟩ := written
  simp [readText?, content.readString?_append, Document.skipBlanks_append blank]

theorem exists_textWritten {s : String} (read : readText? cs = some (s, rest)) :
    ∃ form, TextWritten s form ∧ cs = form ++ rest := by
  unfold readText? at read
  split at read
  · obtain ⟨⟨content, more⟩, same, pair⟩ := Option.map_eq_some_iff.mp read
    cases pair
    obtain ⟨forms, written, rfl⟩ := exists_charsWritten same
    obtain ⟨gap, blank, whole⟩ := exists_gap more
    refine ⟨_, .intro (by rwa [String.toList_ofList]) blank, ?_⟩
    rw [List.append_assoc, List.cons_append, List.cons_append, ← whole]
  · cases read

theorem TextWritten.skipBlanks_append {s : String} (written : TextWritten s cs)
    (rest : List Char) : skipBlanks (cs ++ rest) = cs ++ rest := by
  obtain ⟨-, -⟩ := written
  exact skipBlanks_cons rfl _

theorem NullWritten.readNull?_append (written : NullWritten cs) (rest : List Char) :
    readNull? (cs ++ rest) = some (skipBlanks rest) := by
  obtain ⟨blank⟩ := written
  simp [readNull?, Document.skipBlanks_append blank]

theorem exists_nullWritten (read : readNull? cs = some rest) :
    ∃ form, NullWritten form ∧ cs = form ++ rest := by
  unfold readNull? at read
  split at read
  · next more =>
    cases read
    obtain ⟨gap, blank, whole⟩ := exists_gap more
    exact ⟨_, .intro blank, by simp only [List.cons_append, ← whole]⟩
  · cases read

theorem NullWritten.skipBlanks_append (written : NullWritten cs) (rest : List Char) :
    skipBlanks (cs ++ rest) = cs ++ rest := by
  obtain ⟨-⟩ := written
  exact skipBlanks_cons rfl _

/-! ### Kinds and fields -/

/-- The name of a kind is read from each of its forms. -/
theorem KindWritten.readKind?_append {spelling : String} (written : KindWritten spelling cs)
    (rest : List Char) : readKind? (cs ++ rest) = some (spelling, skipBlanks rest) := by
  cases written with
  | text text =>
    have noMark : readMark? '\x7b' (cs ++ rest) = none := by
      obtain ⟨-, -⟩ := text
      rfl
    simp [readKind?, noMark, text.readText?_append]
  | object opens text separates null closes =>
    simp [readKind?, opens.readMark?_append, text.skipBlanks_append, text.readText?_append,
      separates.skipBlanks_append rfl, separates.readMark?_append, null.skipBlanks_append,
      null.readNull?_append, closes.skipBlanks_append rfl, closes.readMark?_append]

/-- What is read of a kind is a form of its name. -/
theorem exists_kindWritten {spelling : String} (read : readKind? cs = some (spelling, rest)) :
    ∃ form, KindWritten spelling form ∧ cs = form ++ rest := by
  unfold readKind? at read
  split at read
  · obtain ⟨form, written, rfl⟩ := exists_textWritten read
    exact ⟨form, .text written, rfl⟩
  · next inner openRead =>
    simp only [Option.bind_eq_bind, Option.bind_eq_some_iff, Option.pure_def, Option.some.injEq,
      Prod.mk.injEq, Prod.exists] at read
    obtain ⟨name, afterName, textRead, afterColon, colonRead, afterNull, nullRead, afterClose,
      closeRead, rfl, rfl⟩ := read
    obtain ⟨opening, opens, rfl⟩ := exists_markWritten openRead
    obtain ⟨key, text, rfl⟩ := exists_textWritten textRead
    obtain ⟨colon, separates, rfl⟩ := exists_markWritten colonRead
    obtain ⟨content, null, rfl⟩ := exists_nullWritten nullRead
    obtain ⟨closing, closes, rfl⟩ := exists_markWritten closeRead
    exact ⟨_, .object opens text separates null closes, by simp⟩

theorem KindWritten.skipBlanks_append {spelling : String} (written : KindWritten spelling cs)
    (rest : List Char) : skipBlanks (cs ++ rest) = cs ++ rest := by
  cases written with
  | text text => exact text.skipBlanks_append rest
  | object opens text separates null closes =>
    simpa using opens.skipBlanks_append rfl _

/-- A field is read from each of its forms. -/
theorem FieldWritten.readField?_append {field : String × String} (written : FieldWritten field cs)
    (rest : List Char) : readField? (cs ++ rest) = some (field, skipBlanks rest) := by
  obtain ⟨text, separates, kind⟩ := written
  simp [readField?, text.readText?_append, separates.skipBlanks_append rfl,
    separates.readMark?_append, kind.skipBlanks_append, kind.readKind?_append]

/-- What is read of a field is one of its forms. -/
theorem exists_fieldWritten {field : String × String} (read : readField? cs = some (field, rest)) :
    ∃ form, FieldWritten field form ∧ cs = form ++ rest := by
  simp only [readField?, Option.bind_eq_bind, Option.bind_eq_some_iff, Option.pure_def,
    Option.some.injEq, Prod.mk.injEq, Prod.exists] at read
  obtain ⟨name, afterName, textRead, afterColon, colonRead, spelling, more, kindRead, rfl,
    rfl⟩ := read
  obtain ⟨key, text, rfl⟩ := exists_textWritten textRead
  obtain ⟨colon, separates, rfl⟩ := exists_markWritten colonRead
  obtain ⟨value, kind, rfl⟩ := exists_kindWritten kindRead
  exact ⟨_, .intro text separates kind, by simp⟩

/-- A field starts with the mark of its name. -/
theorem FieldWritten.exists_cons {field : String × String} (written : FieldWritten field cs) :
    ∃ more, cs = '"' :: more := by
  obtain ⟨⟨-, -⟩, -, -⟩ := written
  exact ⟨_, rfl⟩

/-! ### Rows and documents -/

section Rows

variable {fields : List (String × String)}

theorem RowWritten.exists_cons (written : RowWritten fields cs) : ∃ more, cs = '"' :: more := by
  cases written with
  | last written => exact written.exists_cons
  | cons written _ _ =>
    obtain ⟨more, rfl⟩ := written.exists_cons
    exact ⟨_, rfl⟩

theorem RowWritten.skipBlanks_append (written : RowWritten fields cs) (rest : List Char) :
    skipBlanks (cs ++ rest) = cs ++ rest := by
  obtain ⟨more, rfl⟩ := written.exists_cons
  exact skipBlanks_cons rfl _

/-- Every field takes a character. -/
theorem RowWritten.length_le (written : RowWritten fields cs) : fields.length ≤ cs.length := by
  induction written with
  | last written =>
    obtain ⟨more, rfl⟩ := written.exists_cons
    simp
  | cons written _ _ ih =>
    obtain ⟨more, rfl⟩ := written.exists_cons
    simp only [List.length_append, List.length_cons]
    omega

/-- Fields are read from each form of a row, up to the mark that ends it, if there are enough
steps. -/
theorem RowWritten.readFields?_append {closing : List Char} {steps : Nat}
    (written : RowWritten fields cs) (closes : MarkWritten '\x7d' closing)
    (enough : fields.length ≤ steps) (rest : List Char) :
    readFields? steps (cs ++ closing ++ rest) = some (fields, skipBlanks rest) := by
  induction written generalizing steps with
  | last written =>
    obtain _ | steps := steps
    · simp at enough
    have noComma : readMark? ',' (closing ++ rest) = none := by
      obtain ⟨-⟩ := closes
      rfl
    simp [readFields?, written.readField?_append, closes.skipBlanks_append rfl, noComma,
      closes.readMark?_append]
  | cons written separates later ih =>
    obtain _ | steps := steps
    · simp at enough
    have remaining := ih (Nat.le_of_succ_le_succ enough)
    simp only [List.append_assoc] at remaining ⊢
    simp [readFields?, written.readField?_append, separates.skipBlanks_append rfl,
      separates.readMark?_append, later.skipBlanks_append, remaining]

/-- What is read of fields is a form of a row of them, and a mark that ends it. -/
theorem exists_rowWritten {steps : Nat} (read : readFields? steps cs = some (fields, rest)) :
    ∃ form closing, RowWritten fields form ∧ MarkWritten '\x7d' closing ∧
      cs = form ++ closing ++ rest := by
  induction steps generalizing cs fields with
  | zero => cases read
  | succ steps ih =>
    simp only [readFields?, Option.bind_eq_bind, Option.bind_eq_some_iff, Prod.exists] at read
    obtain ⟨name, spelling, afterField, first, read⟩ := read
    obtain ⟨form, written, rfl⟩ := exists_fieldWritten first
    split at read <;>
      simp only [Option.bind_eq_some_iff, Option.pure_def, Option.some.injEq, Prod.mk.injEq,
        Prod.exists] at read
    · next afterComma commaRead =>
      obtain ⟨more, after, later, rfl, rfl⟩ := read
      obtain ⟨comma, separates, rfl⟩ := exists_markWritten commaRead
      obtain ⟨forms, closing, row, closes, rfl⟩ := ih later
      exact ⟨_, closing, .cons written separates row, closes, by simp⟩
    · obtain ⟨after, closeRead, rfl, rfl⟩ := read
      obtain ⟨closing, closes, rfl⟩ := exists_markWritten closeRead
      exact ⟨form, closing, .last written, closes, by simp⟩

/-- A document is read from each of its forms. -/
theorem Written.read?_eq_some (written : Written fields cs) : read? cs = some fields := by
  cases written with
  | empty blank opens closes =>
    simp only [read?, List.append_assoc, Document.skipBlanks_append blank,
      opens.skipBlanks_append rfl, opens.readMark?_append, closes.skipBlanks_self rfl,
      closes.readMark?_self, Option.bind_eq_bind, Option.bind_some]
    rfl
  | @row _ gap opening cs closing blank opens written closes =>
    -- the reader takes as many steps as there are characters
    have enough : fields.length ≤ (gap ++ opening ++ cs ++ closing).length := by
      have := written.length_le
      simp only [List.length_append]
      omega
    have fieldsRead := written.readFields?_append closes enough []
    have noClose : readMark? '\x7d' (cs ++ closing) = none := by
      obtain ⟨more, rfl⟩ := written.exists_cons
      rfl
    simp only [List.append_nil, List.append_assoc] at fieldsRead
    simp only [read?, List.append_assoc, Document.skipBlanks_append blank,
      opens.skipBlanks_append rfl, opens.readMark?_append, written.skipBlanks_append, noClose,
      fieldsRead, Option.bind_eq_bind, Option.bind_some]
    rfl

/-- Documents are read exactly from their forms. -/
theorem read?_eq_some_iff : read? cs = some fields ↔ Written fields cs := by
  refine ⟨fun read => ?_, Written.read?_eq_some⟩
  simp only [read?, Option.bind_eq_bind, Option.bind_eq_some_iff] at read
  obtain ⟨inner, openRead, read⟩ := read
  obtain ⟨gap, blank, whole⟩ := exists_gap cs
  obtain ⟨opening, opens, skipped⟩ := exists_markWritten openRead
  rw [whole, skipped]
  split at read
  · next after closeRead =>
    obtain ⟨closing, closes, rfl⟩ := exists_markWritten closeRead
    split at read
    · next ended =>
      cases read
      rw [List.isEmpty_iff.mp ended]
      simpa using Written.empty blank opens closes
    · cases read
  · simp only [Option.bind_eq_some_iff, Prod.exists] at read
    obtain ⟨row, after, rowRead, read⟩ := read
    obtain ⟨form, closing, written, closes, rfl⟩ := exists_rowWritten rowRead
    split at read
    · next ended =>
      cases read
      rw [List.isEmpty_iff.mp ended]
      simpa using Written.row blank opens written closes
    · cases read

end Rows

/-! ### Writing -/

/-- A control has two digits in front of which two zeros stand. -/
theorem hexValue?_leftpad : ∀ n < 0x20, ∃ a b c d,
    (Nat.toDigits 16 n).leftpad 4 '0' = [a, b, c, d] ∧ Text.hexValue? [a, b, c, d] = some n ∧
      n.isValidChar := by
  have digits : ∀ n < 0x20,
      (Nat.toDigits 16 n).leftpad 4 '0' = ['0', '0', (n / 16).digitChar, (n % 16).digitChar] ∧
      Text.hexValue? ['0', '0', (n / 16).digitChar, (n % 16).digitChar] = some n := by decide
  intro n control
  obtain ⟨padded, value⟩ := digits n control
  exact ⟨_, _, _, _, padded, value, .inl (by omega)⟩

/-- What is written for a character is one of its forms. -/
theorem charWritten_writeChar (c : Char) : CharWritten c (writeChar c) := by
  unfold writeChar
  split
  iterate 7 exact .short rfl
  next noMark noEscape _ _ _ _ _ =>
    split
    · next control =>
      obtain ⟨a, b, d, e, padded, value, alone⟩ := hexValue?_leftpad c.toNat control
      rw [padded]
      simpa [Char.ofNat_toNat] using CharWritten.unit value alone
    · next noControl => exact .plain noMark noEscape (Nat.le_of_not_lt noControl)

theorem charsWritten_flatMap (cs : List Char) : CharsWritten cs (cs.flatMap writeChar) := by
  induction cs with
  | nil => exact .nil
  | cons c cs ih => exact .cons (charWritten_writeChar c) ih

theorem isGap_nil : IsGap [] := fun _ member => absurd member List.not_mem_nil

theorem textWritten_writeString (s : String) : TextWritten s (writeString s) :=
  .intro (charsWritten_flatMap s.toList) isGap_nil

theorem fieldWritten_writeField (field : String × String) :
    FieldWritten field (writeField field) := by
  have written := FieldWritten.intro (textWritten_writeString field.1) (.intro isGap_nil)
    (.text (textWritten_writeString field.2))
  simpa [writeField] using written

/-- What is written for a row of fields is a form of it. -/
theorem rowWritten_intercalate (field : String × String) (fields : List (String × String)) :
    RowWritten (field :: fields) ([','].intercalate ((field :: fields).map writeField)) := by
  induction fields generalizing field with
  | nil => simpa using RowWritten.last (fieldWritten_writeField field)
  | cons next fields ih =>
    simpa using RowWritten.cons (fieldWritten_writeField field) (.intro isGap_nil) (ih next)

/-- What is written is a form of the fields. -/
theorem written_write (fields : List (String × String)) : Written fields (write fields) := by
  have opens : MarkWritten '\x7b' ['\x7b'] := .intro isGap_nil
  have closes : MarkWritten '\x7d' ['\x7d'] := .intro isGap_nil
  cases fields with
  | nil => exact .empty isGap_nil opens closes
  | cons field fields =>
    simpa [write] using Written.row isGap_nil opens (rowWritten_intercalate field fields) closes

/-- The codec reads what it writes, even if a key stands twice. -/
theorem faithful_codec : codec.Faithful := by
  intro fields _
  change read? (String.ofList (write fields)).toList = some fields
  rw [String.toList_ofList]
  exact (written_write fields).read?_eq_some

end RecordFilter.Schema.Document
