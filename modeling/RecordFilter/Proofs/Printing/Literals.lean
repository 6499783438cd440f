import RecordFilter.Proofs.Binary.ReadBack
import RecordFilter.Proofs.Condition.Mentions
import RecordFilter.Proofs.Printing.Meaning
import RecordFilter.Proofs.Printing.Scanning
import RecordFilter.Proofs.Token.Decomposition

/-!
# Literals of printed conditions

No text that an expression compares with can leave its literal in the `WHERE` clause. A scan
of the clause ends outside of literals, the contents of the literals are the texts and
patterns of the condition, and everything around them is plain.

What stands around the literals is what a dialect would print that leaves every literal
blank. So it depends on the shape of the condition, its names and its numbers, and not on
any text. Names are plain because they come from words, and numbers because they are printed
by digits.

## Main definitions

* `Condition.literals`: the texts and patterns of a condition, from left to right
* `Dialect.masked`: the spelling of a `WHERE` clause without its literals
* `Condition.PlainNames`: the names of fields consist of plain characters

## Main results

* `Condition.PlainNames.scans_fragments`: the scan of a printed condition
* `Condition.PlainNames.of_parse`: the names of parsed conditions
* `parse_print_scanLiterals`: the `WHERE` clause of a parsed expression
-/

namespace RecordFilter

open Text (isPlain Scans AllScan)

/-! ### Texts of a condition -/

/-- The text in a value, if it is one. -/
def Value.literals (v : Value) : List String := v.text?.toList

/-- The texts and patterns in a right-hand side. -/
def Operand.literals : Operand → List String
  | value v => v.literals
  | set s => s.values.flatMap Value.literals
  | pattern p => [p.source]
  | reference _ => []

namespace Condition

mutual

/-- The texts and patterns in a condition, in the order in which it is printed. -/
def literals : Condition → List String
  | .always => []
  | .never => []
  | .comparison c => c.operand.literals
  | .conj terms => termLiterals terms
  | .disj terms => termLiterals terms
  | .invert inner => inner.literals
  | .fields constraints => constraintLiterals constraints
  | .failure _ => []

/-- The texts and patterns in some terms. -/
def termLiterals : List Condition → List String
  | [] => []
  | t :: rest => t.literals ++ termLiterals rest

/-- The texts and patterns in some constraints. -/
def constraintLiterals : List (String × Condition) → List String
  | [] => []
  | (_, constraint) :: rest => constraint.literals ++ constraintLiterals rest

end

theorem literals_node (connective : Connective) (terms : List Condition) :
    (connective.node terms).literals = terms.flatMap literals := by
  induction terms with
  | nil => cases connective <;> simp only [Connective.node, literals, termLiterals, List.flatMap_nil]
  | cons t rest ih =>
    rw [List.flatMap_cons, ← ih]
    cases connective <;> simp only [Connective.node, literals, termLiterals]

theorem literals_fields (constraints : List (String × Condition)) :
    (fields constraints).literals = constraints.flatMap fun f => f.2.literals := by
  induction constraints with
  | nil => simp only [literals, constraintLiterals, List.flatMap_nil]
  | cons f rest ih =>
    rw [List.flatMap_cons, ← ih]
    simp only [literals, constraintLiterals]

end Condition

/-! ### Plain characters -/

theorem isPlain_of_isDigit {c : Char} (digit : c.isDigit = true) : isPlain c = true := by
  simp only [isPlain, Char.isAlphanum, digit, Bool.or_true, Bool.true_or]

theorem isPlain_of_continuesWord {c : Char} (continues : Lexeme.continuesWord c = true) :
    isPlain c = true := by
  rcases Bool.or_eq_true_iff.mp continues with alphanumeric | line
  · rw [isPlain, alphanumeric, Bool.true_or]
  · rw [eq_of_beq line]
    decide

theorem isPlain_of_mem_digits {n : Nat} {c : Char} (member : c ∈ Decimal.digits n) :
    isPlain c = true :=
  isPlain_of_isDigit (Nat.isDigit_of_mem_toDigits (by decide) (by decide) member)

theorem isPlain_of_mem_positional {d : Decimal} {c : Char} (member : c ∈ d.positional) :
    isPlain c = true := by
  unfold Decimal.positional at member
  split at member
  · exact isPlain_of_mem_digits member
  · simp only [Decimal.paddedDigits, List.leftpad, List.mem_append, List.mem_cons,
      List.mem_replicate] at member
    rcases member with whole | rfl | ⟨-, rfl⟩ | place
    · exact isPlain_of_mem_digits whole
    · decide
    · decide
    · exact isPlain_of_mem_digits place

theorem isPlain_of_mem_fixedText {F : Binary.Format} {x : Binary F} {places : Nat} {c : Char}
    (member : c ∈ x.fixedText places) : isPlain c = true := by
  rcases List.mem_append.mp member with sign | digit
  · unfold Binary.signText at sign
    split at sign
    · rw [List.mem_singleton.mp sign]
      decide
    · cases sign
  · exact isPlain_of_mem_positional digit

theorem isPlain_of_mem_toString {n : Int} {c : Char} (member : c ∈ (toString n).toList) :
    isPlain c = true := by
  rw [Numeral.toList_toString] at member
  rcases List.mem_append.mp member with sign | digit
  · unfold Numeral.signChars at sign
    split at sign
    · rw [List.mem_singleton.mp sign]
      decide
    · cases sign
  · exact isPlain_of_mem_digits digit

/-! ### Comparisons -/

/-- The spelling of a `WHERE` clause, but with nothing in the place of a literal. -/
def Dialect.masked : Dialect := { Dialect.sqlite with quote := fun _ => "" }

open Dialect (sqlite masked)

/-- The text is scanned with the given literals, and around them stands what is printed when
literals are blank. -/
def TextScans (text : String) (blank : Except PrintError String) (literals : List String) : Prop :=
  ∃ around, blank = .ok around ∧ Scans text.toList around.toList literals

theorem scans_value {v : Value} {text : String} (spelled : sqlite.value v = .ok text) :
    TextScans text (masked.value v) v.literals := by
  have number {F : Binary.Format} {x : Binary F} (spelled : sqlite.number x = .ok text) :
      Scans text.toList text.toList [] := by
    simp only [sqlite] at spelled
    split at spelled
    · cases spelled
      rw [String.toList_ofList]
      exact Text.scans_plain (List.all_eq_true.mpr fun c => isPlain_of_mem_fixedText)
    · cases spelled
  cases v with
  | int kind n inRange =>
    cases spelled
    exact ⟨_, rfl, Text.scans_plain (List.all_eq_true.mpr fun c => isPlain_of_mem_toString)⟩
  | single x => exact ⟨text, spelled, number spelled⟩
  | double x => exact ⟨text, spelled, number spelled⟩
  | bool b =>
    cases spelled
    exact ⟨_, rfl, Text.scans_plain (by cases b <;> decide)⟩
  | text s =>
    cases spelled
    exact ⟨"", rfl, Text.scans_quoteDoubled s⟩

/-- What is printed one by one is scanned one by one. -/
theorem allScan_mapM {α β : Type} {print blank : α → Except PrintError β}
    {chars around : β → List Char} {literals : α → List String} {parts : List α} {made : List β}
    (each : ∀ a ∈ parts, ∀ b, print a = .ok b →
      ∃ left, blank a = .ok left ∧ Scans (chars b) (around left) (literals a))
    (printed : parts.mapM print = .ok made) :
    ∃ blanks, parts.mapM blank = .ok blanks ∧
      AllScan (made.map chars) (blanks.map around) (parts.flatMap literals) := by
  have scanned := forall₂_of_mapM each printed
  clear each printed
  induction scanned with
  | nil => exact ⟨[], rfl, .nil⟩
  | cons first _ ih =>
    obtain ⟨left, blankFirst, scans⟩ := first
    obtain ⟨blanks, blankLater, scansLater⟩ := ih
    refine ⟨left :: blanks, ?_, .cons scans scansLater⟩
    rw [List.mapM_cons, blankFirst, blankLater]
    rfl

/-- A list is scanned value by value. -/
theorem scans_list {items blanks : List String} {literals : List String}
    (each : AllScan (items.map String.toList) (blanks.map String.toList) literals) :
    Scans (sqlite.list items).toList (masked.list blanks).toList literals := by
  have separator : [',', ' '].all isPlain = true := by decide
  have opening : ['('].all isPlain = true := by decide
  have closing : [')'].all isPlain = true := by decide
  have separated := each.intercalate separator (List.cons_ne_nil _ _)
  have closed := separated.append_plain closing (List.cons_ne_nil _ _)
  simpa [sqlite, masked, String.toList_append, String.toList_intercalate] using
    closed.plain_append opening

/-- All characters of the text are plain. -/
def IsPlainText (s : String) : Prop := s.toList.all isPlain = true

theorem IsPlainText.append {s t : String} (first : IsPlainText s) (second : IsPlainText t) :
    IsPlainText (s ++ t) := by
  unfold IsPlainText
  rw [String.toList_append]
  exact Text.all_isPlain_append first second

theorem IsPlainText.scans_append {s t blank : String} {literals : List String}
    (plain : IsPlainText s) (after : Scans t.toList blank.toList literals) :
    Scans (s ++ t).toList (s ++ blank).toList literals := by
  rw [String.toList_append, String.toList_append]
  exact after.plain_append plain

theorem isPlainText_blank : IsPlainText " " := by
  unfold IsPlainText
  decide

theorem isPlainText_recordName : IsPlainText recordName := by
  unfold IsPlainText
  decide

theorem isPlainText_operator (op : Operator) : IsPlainText (sqlite.operator op) := by
  unfold IsPlainText
  cases op <;> decide

/-- If the right-hand side refers to a field, the name of the field is plain. -/
def Operand.PlainName (operand : Operand) : Prop :=
  ∀ name, operand = .reference name → IsPlainText name

theorem scans_operand {operand : Operand} {text : String} (named : operand.PlainName)
    (spelled : sqlite.operand operand = .ok text) :
    TextScans text (masked.operand operand) operand.literals := by
  cases operand with
  | value v => exact scans_value spelled
  | set s =>
    rw [Dialect.operand, Dialect.values_eq_mapM] at spelled
    obtain ⟨items, listed, rfl⟩ := map_eq_ok_iff.mp spelled
    obtain ⟨blanks, listedBlank, each⟩ := allScan_mapM (fun _ _ _ => scans_value) listed
    refine ⟨masked.list blanks, ?_, scans_list each⟩
    rw [Dialect.operand, Dialect.values_eq_mapM, listedBlank]
    rfl
  | pattern p =>
    cases spelled
    exact ⟨"", rfl, Text.scans_quoteDoubled p.source⟩
  | reference name =>
    cases spelled
    exact ⟨text, rfl, Text.scans_plain (named text rfl)⟩

/-- A printed comparison is plain up to its right-hand side. -/
theorem scans_comparison {field : Option String} {c : Comparison} {text : String}
    (constrained : IsPlainText (field.getD recordName)) (named : c.operand.PlainName)
    (spelled : sqlite.comparison field c = .ok text) :
    TextScans text (masked.comparison field c) c.operand.literals := by
  rw [Dialect.comparison] at spelled
  obtain ⟨operand, right, rfl⟩ := map_eq_ok_iff.mp spelled
  obtain ⟨blank, rightBlank, scans⟩ := scans_operand named right
  refine ⟨field.getD recordName ++ " " ++ masked.operator c.op ++ " " ++ blank, ?_, ?_⟩
  · rw [Dialect.comparison, rightBlank]
    rfl
  · have left : IsPlainText (field.getD recordName ++ " " ++ sqlite.operator c.op ++ " ") :=
      ((constrained.append isPlainText_blank).append (isPlainText_operator c.op)).append
        isPlainText_blank
    exact left.scans_append scans

/-! ### Conditions -/

/-- The characters of a row of fragments. -/
def Fragment.chars (d : Dialect) (fs : List Fragment) : List Char :=
  fs.flatMap fun f => (f.text d).toList

theorem Fragment.toList_join (d : Dialect) (fs : List Fragment) :
    (String.join (fs.map (Fragment.text d))).toList = chars d fs := by
  rw [String.toList_join, List.flatMap_map, chars]

theorem Fragment.chars_intercalate (d : Dialect) (f : Fragment) (rows : List (List Fragment)) :
    chars d ([f].intercalate rows) =
      (f.text d).toList.intercalate (rows.map (chars d)) := by
  induction rows with
  | nil => rfl
  | cons row rest ih =>
    cases rest with
    | nil => simp only [List.intercalate_singleton, List.map_cons, List.map_nil]
    | cons second rest =>
      simp only [List.intercalate_cons_cons, List.map_cons] at ih ⊢
      rw [← ih]
      simp only [chars, List.flatMap_append, List.flatMap_cons, List.flatMap_nil, List.append_nil]

namespace Condition

/-- Every name in the condition consists of plain characters, whether the field of that name
is constrained or referred to. -/
inductive PlainNames : Condition → Prop
  | always : PlainNames .always
  | never : PlainNames .never
  | comparison {c : Comparison} (named : c.operand.PlainName) : PlainNames (.comparison c)
  | conj {terms : List Condition} (parts : ∀ t ∈ terms, PlainNames t) : PlainNames (.conj terms)
  | disj {terms : List Condition} (parts : ∀ t ∈ terms, PlainNames t) : PlainNames (.disj terms)
  | invert {inner : Condition} (part : PlainNames inner) : PlainNames (.invert inner)
  | fields {constraints : List (String × Condition)}
      (named : ∀ f ∈ constraints, IsPlainText f.1) (parts : ∀ f ∈ constraints, PlainNames f.2) :
      PlainNames (.fields constraints)
  | failure (message : String) : PlainNames (.failure message)

theorem plainNames_node_iff {connective : Connective} {terms : List Condition} :
    (connective.node terms).PlainNames ↔ ∀ t ∈ terms, t.PlainNames := by
  constructor
  · intro names
    cases connective <;> cases names <;> assumption
  · intro parts
    cases connective with
    | and => exact .conj parts
    | or => exact .disj parts

/-- The row is scanned with the given literals, and around them stands the row that is printed
when literals are blank. -/
def RowScans (row : List Fragment) (blank : Except PrintError (List Fragment))
    (literals : List String) : Prop :=
  ∃ around, blank = .ok around ∧
    Scans (Fragment.chars sqlite row) (Fragment.chars masked around) literals

variable {field : Option String} {inside : Surrounding}

/-- Parentheses are plain. -/
theorem scans_enclose {row blank : List Fragment} {literals : List String}
    (inner : Scans (Fragment.chars sqlite row) (Fragment.chars masked blank) literals) :
    Scans (Fragment.chars sqlite (Fragment.enclose row))
      (Fragment.chars masked (Fragment.enclose blank)) literals := by
  have opening : ['('].all isPlain = true := by decide
  have closing : [')'].all isPlain = true := by decide
  have closed := (inner.append_plain closing (List.cons_ne_nil _ _)).plain_append opening
  simpa [Fragment.chars, Fragment.enclose, Fragment.text] using closed

/-- The blanks of a connective keep the literals before and after it apart, and parentheses around
all of them change nothing. -/
theorem scans_joinRows {connective : Connective} {rows blanks : List (List Fragment)}
    {literals : List String}
    (each : AllScan (rows.map (Fragment.chars sqlite)) (blanks.map (Fragment.chars masked))
      literals) :
    Scans (Fragment.chars sqlite (connective.joinRows inside rows))
      (Fragment.chars masked (connective.joinRows inside blanks)) literals := by
  have plain : IsPlainText (connective.fragment.text sqlite) := by
    unfold IsPlainText
    cases connective <;> decide
  have nonempty : (connective.fragment.text sqlite).toList ≠ [] := by
    cases connective <;> decide
  have body : Scans (Fragment.chars sqlite ([connective.fragment].intercalate rows))
      (Fragment.chars masked ([connective.fragment].intercalate blanks)) literals := by
    rw [Fragment.chars_intercalate, Fragment.chars_intercalate]
    exact each.intercalate plain nonempty
  unfold Connective.joinRows
  split
  · exact scans_enclose body
  · exact body

theorem rowScans_constant (b : Bool) : RowScans [.constant b] (.ok [.constant b]) [] := by
  refine ⟨_, rfl, Text.scans_plain ?_⟩
  cases b <;> decide

/-- A condition with plain names is scanned as the texts and patterns in it, and what is
printed around them does not depend on them. -/
theorem PlainNames.scans_fragments {c : Condition} {fs : List Fragment} (names : c.PlainNames)
    (constrained : IsPlainText (field.getD recordName))
    (printed : c.fragments sqlite field inside = .ok fs) :
    RowScans fs (c.fragments masked field inside) c.literals := by
  revert names constrained
  refine fragments_induction (d := sqlite) (motive := fun field inside c fs => c.PlainNames →
    IsPlainText (field.getD recordName) → RowScans fs (c.fragments masked field inside) c.literals)
    ?always ?never ?comparison ?node ?invert ?noFields ?fields printed
  case always =>
    intro _ _ _ _
    rw [fragments]
    exact rowScans_constant true
  case never =>
    intro _ _ _ _
    rw [fragments]
    exact rowScans_constant false
  case comparison =>
    intro _ _ leaf text spelled names constrained
    cases names with
    | comparison named =>
      obtain ⟨blank, spelledBlank, scans⟩ := scans_comparison constrained named spelled
      refine ⟨[.atom blank], ?_, ?_⟩
      · rw [fragments, spelledBlank]
        rfl
      · simpa [Fragment.chars, Fragment.text, literals] using scans
  case node =>
    intro _ _ connective terms rows printed ih names constrained
    have parts := plainNames_node_iff.mp names
    obtain ⟨blanks, printedBlank, each⟩ := allScan_mapM
      (fun t member row printed => ih t member row printed (parts t member) constrained) printed
    rw [literals_node, fragments_node, printedBlank]
    exact ⟨_, rfl, scans_joinRows each⟩
  case invert =>
    intro _ _ inner body _ ih names constrained
    cases names with
    | invert part =>
      obtain ⟨blank, printedBlank, scans⟩ := ih part constrained
      refine ⟨.not :: Fragment.enclose blank, ?_, ?_⟩
      · rw [fragments, printedBlank]
        rfl
      · have negation : IsPlainText (Fragment.not.text sqlite) := by
          unfold IsPlainText
          decide
        exact (scans_enclose scans).plain_append negation
  case noFields =>
    intro _ _ _
    rw [fragments]
    exact rowScans_constant true
  case fields =>
    intro _ constraints rows nonempty printed ih names _
    cases names with
    | fields named parts =>
      obtain ⟨blanks, printedBlank, each⟩ := allScan_mapM
        (fun f member row printed => ih f member row printed (parts f member) (named f member))
        printed
      rw [literals_fields, fragments_fields nonempty, printedBlank]
      exact ⟨_, rfl, @scans_joinRows _ .and _ _ _ each⟩

end Condition

/-! ### Names of parsed conditions -/

/-- The characters of a word are those that continue words. -/
theorem Lexeme.Spelled.isPlainText {s : String} {source : List Char}
    (spelled : (Lexeme.word s).Spelled source) : IsPlainText s := by
  cases spelled with
  | word start continued =>
    unfold IsPlainText
    rw [String.toList_ofList, List.all_eq_true]
    intro c member
    rcases List.mem_cons.mp member with rfl | later
    · have begins := startsWord_iff.mpr start
      exact isPlain_of_continuesWord (Reading.continuesWord_of_startsWord begins)
    · exact isPlain_of_continuesWord (continuesWord_iff.mpr (continued c later))

theorem isPlainText_of_tokenize {text : String} {tokens : List Token} {s : String}
    (scanned : tokenize text = .ok tokens) (member : Lexeme.word s ∈ tokens.map Token.lexeme) :
    IsPlainText s := by
  obtain ⟨t, among, word⟩ := List.mem_map.mp member
  obtain ⟨source, spelled⟩ := (Token.decomposes_of_tokenize scanned).exists_spelled among
  rw [word] at spelled
  exact spelled.isPlainText

namespace Condition

/-- Names are plain throughout if those that the condition mentions are. -/
theorem PlainNames.of_mentions {c : Condition}
    (plain : ∀ name, c.Mentions name → IsPlainText name) : c.PlainNames := by
  induction c using node_induction with
  | always => exact .always
  | never => exact .never
  | failure message => exact .failure message
  | comparison leaf =>
    exact .comparison fun name refers => plain name (mentions_comparison_iff.mpr refers)
  | node connective terms ih =>
    refine plainNames_node_iff.mpr fun t member => ih t member fun name inTerm => ?_
    exact plain name (mentions_node_iff.mpr ⟨t, member, inTerm⟩)
  | invert inner ih =>
    exact .invert (ih fun name inside => plain name (mentions_invert_iff.mpr inside))
  | fields constraints ih =>
    refine .fields (fun f member => ?_) fun f member => ih f member fun name inConstraint => ?_
    · exact plain f.1 (mentions_fields_iff.mpr ⟨f, member, .inl rfl⟩)
    · exact plain name (mentions_fields_iff.mpr ⟨f, member, .inr inConstraint⟩)

/-- The names in a parsed condition are words of the text. -/
theorem PlainNames.of_parse {schema : Schema} {text : String} {c : Condition}
    (parsed : parse schema text = .ok c) : c.PlainNames := by
  apply PlainNames.of_mentions
  intro name mentioned
  obtain ⟨-, tokens, scanned, word⟩ := (Mentions.of_parse parsed mentioned).contains_and_word
  exact isPlainText_of_tokenize scanned word

end Condition

/-- The `WHERE` clause of a parsed expression ends outside of literals. The contents of its
literals are the texts and patterns of the condition, in the order in which they are printed,
whatever marks or spellings there are in them. Around the literals stands what would be
printed if every literal were blank, and it consists of letters, digits and a few other
characters. -/
theorem parse_print_scanLiterals {schema : Schema} {text sql : String} {c : Condition}
    (parsed : parse schema text = .ok c) (printed : c.print .sqlite = .ok sql) :
    ∃ around, Text.scanLiterals sql = some (around.toList, c.literals) ∧
      c.print .masked = .ok around ∧ ∀ ch ∈ around.toList, isPlain ch = true := by
  have names := Condition.PlainNames.of_parse parsed
  obtain ⟨fs, row, rfl⟩ := Condition.exists_fragments_of_print printed
  have constrained : IsPlainText ((none : Option String).getD recordName) :=
    isPlainText_recordName
  obtain ⟨blank, rowBlank, scans⟩ := names.scans_fragments constrained row
  rw [← Fragment.toList_join, ← Fragment.toList_join] at scans
  refine ⟨String.join (blank.map (Fragment.text masked)), scans.scanLiterals_eq_some, ?_, ?_⟩
  · rw [Condition.print, rowBlank]
    rfl
  · exact List.all_eq_true.mp scans.1

/-- Marks stand at both ends of a text that looks like a condition, alone, twice and inside of
a pattern. -/
theorem parse_print_scanLiterals_of_marks :
    ∃ schema c around,
      parse schema "s = \"' OR 1 = 1 --'\" OR s IN (\"'\", \"a''\") AND t NOT MATCH \"it's\"" =
        .ok c ∧
      c.print .sqlite = .ok
        "((s = ''' OR 1 = 1 --''') OR (s IN ('''', 'a'''''))) AND t NOT REGEXP 'it''s'" ∧
      Text.scanLiterals
        "((s = ''' OR 1 = 1 --''') OR (s IN ('''', 'a'''''))) AND t NOT REGEXP 'it''s'" =
          some (around.toList, ["' OR 1 = 1 --'", "'", "a''", "it's"]) ∧
      c.print .masked = .ok around ∧ ∀ ch ∈ around.toList, isPlain ch = true := by
  let schema := (Schema.empty.withField "s" .text).withField "t" .text
  let text : Value := .text "' OR 1 = 1 --'"
  let members : ValueSet := ⟨[.text "'", .text "a''"]⟩
  let sentence : Expression :=
    ⟨⟨.field "s" .text, ⟨.eq, .value text⟩⟩,
      [(.or, ⟨.field "s" .text, ⟨.isIn, .set members⟩⟩),
        (.and, ⟨.field "t" .text, ⟨.notMatch, .pattern ⟨"it's"⟩⟩⟩)]⟩
  obtain ⟨s, said, same⟩ := Sentence.exists_ofText_of_read schema
    "s = \"' OR 1 = 1 --'\" OR s IN (\"'\", \"a''\") AND t NOT MATCH \"it's\"" sentence
    (by decide +kernel)
  have parsed := parse_eq_ok_iff_ofText.mpr (.inr ⟨s, said, rfl⟩)
  rw [same] at parsed
  have printed : sentence.toCondition.print .sqlite = .ok
      "((s = ''' OR 1 = 1 --''') OR (s IN ('''', 'a'''''))) AND t NOT REGEXP 'it''s'" := by
    decide +kernel
  obtain ⟨around, scanned, blank, plain⟩ := parse_print_scanLiterals parsed printed
  exact ⟨schema, _, around, parsed, printed, scanned, blank, plain⟩

end RecordFilter
