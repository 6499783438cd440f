import RecordFilter.Proofs.Token.Spelling

/-!
# Decomposing a text into tokens

A text that is read to its end is a row of tokens with gaps around them, where no token could
be longer. There is only one such row, so this says what is read. Where reading stops, the
text up to that place is such a row, and behind it no token can start. What has been read by
then is what is read of the text cut there, since no token that ends before further
characters could be longer without them.

## Main definitions

* `Token.IsGap`: the characters that stand between tokens
* `Token.Decomposes`: a text is a row of longest tokens, with their places

## Main results

* `Token.exists_decomposes_scan`: what a scan finds, and where it stops
* `tokenize_eq_ok_iff`: the texts that are read to their end
* `exists_split_of_tokenize_eq_error`: where and why reading stops
-/

namespace RecordFilter

/-- The number of bytes of some characters is that of the text that they make. -/
theorem utf8Length_eq_utf8ByteSize (cs : List Char) :
    utf8Length cs = (String.ofList cs).utf8ByteSize := by
  induction cs with
  | nil => rfl
  | cons c rest ih =>
    have parts : String.ofList (c :: rest) = String.singleton c ++ String.ofList rest := by
      rw [String.singleton_eq_ofList, ← String.ofList_append, List.singleton_append]
    rw [parts, String.utf8ByteSize_append, String.utf8ByteSize_singleton, ← ih]
    rfl

theorem utf8Length_append (cs ds : List Char) :
    utf8Length (cs ++ ds) = utf8Length cs + utf8Length ds := by
  rw [utf8Length_eq_utf8ByteSize, utf8Length_eq_utf8ByteSize, utf8Length_eq_utf8ByteSize,
    String.ofList_append, String.utf8ByteSize_append]

namespace Lexeme

theorem isGap_eq_false_of_isAlphanum {c : Char} (h : c.isAlpha = true ∨ c.isDigit = true) :
    Text.isGap c = false := by
  have range : 48 ≤ c.toNat ∧ c.toNat < 128 := by
    rw [isAlpha_iff, isDigit_iff] at h
    omega
  have noComma : c ≠ ',' := by
    rintro rfl
    exact absurd range.1 (by decide)
  simp only [Text.isGap, Text.isBlank, Text.blankRuns, Text.inRuns, beq_eq_false_iff_ne.mpr noComma]
  simp
  omega

/-- No token begins with what stands between tokens. -/
theorem Spelled.isGap_eq_false {l : Lexeme} {c : Char} {more : List Char}
    (spelled : l.Spelled (c :: more)) : Text.isGap c = false := by
  have marks : (['(', ')', '_', '+', '-', '"'] ++ comparisonChars).all (!Text.isGap ·) = true := by
    decide
  simp only [List.all_eq_true, Bool.not_eq_true'] at marks
  obtain ⟨d, rest, same, category⟩ := spelled.exists_cons
  obtain ⟨rfl, -⟩ := List.cons.inj same
  rcases category with mark | comparison | alphanumeric
  · exact marks c (List.mem_append_left _ mark)
  · exact marks c (List.mem_append_right _ comparison)
  · exact isGap_eq_false_of_isAlphanum alphanumeric

/-- A token that is over before some characters is over where fewer of them follow. -/
theorem Ends.of_append {l : Lexeme} {front back : List Char} (ends : l.Ends (front ++ back)) :
    l.Ends front := by
  have first {c : Char} (member : c ∈ front.head?) : c ∈ (front ++ back).head? := by
    cases front with
    | nil => cases member
    | cons d more => exact member
  cases l with
  | opening | closing | text => trivial
  | word s => exact fun c member => ends c (first member)
  | symbol s => exact fun c member => ends c (first member)
  | number s =>
    refine ⟨fun c member => ends.1 c (first member), ?_⟩
    rintro noPoint c more rfl
    exact ends.2 noPoint c (more ++ back) rfl

end Lexeme

namespace Token

/-- White space and commas, which stand between tokens. -/
def IsGap (cs : List Char) : Prop := ∀ c ∈ cs, Text.isBlank c = true ∨ c = ','

/-- The characters that stand behind `before` are tokens with gaps around them. Each token
is spelled by its category, could not be longer, and is placed at the number of bytes of
everything before it. -/
inductive Decomposes : (before : List Char) → List Char → List Token → Prop
  | done {before gap : List Char} (blank : IsGap gap) : Decomposes before gap []
  | token {before gap source rest : List Char} {lexeme : Lexeme} {tokens : List Token}
      (blank : IsGap gap) (spelled : lexeme.Spelled source) (longest : lexeme.Ends rest)
      (later : Decomposes (before ++ gap ++ source) rest tokens) :
      Decomposes before (gap ++ source ++ rest)
        (⟨lexeme, (String.ofList (before ++ gap)).utf8ByteSize⟩ :: tokens)

theorem isGap_iff {cs : List Char} : IsGap cs ↔ ∀ c ∈ cs, Text.isGap c = true := by
  simp [IsGap, Text.isGap]

theorem isGap_nil : IsGap [] := by simp [IsGap]

theorem IsGap.cons {c : Char} {gap : List Char} (first : Text.isGap c = true)
    (rest : IsGap gap) : IsGap (c :: gap) := by
  rw [isGap_iff] at rest ⊢
  exact List.forall_mem_cons.mpr ⟨first, rest⟩

/-- Every token of a text has a spelling. -/
theorem Decomposes.exists_spelled {before cs : List Char} {tokens : List Token}
    (row : Decomposes before cs tokens) {t : Token} (member : t ∈ tokens) :
    ∃ source, t.lexeme.Spelled source := by
  induction row with
  | done => cases member
  | token _ spelled _ _ ih =>
    rcases List.mem_cons.mp member with rfl | later
    · exact ⟨_, spelled⟩
    · exact ih later

/-! ### Scanning -/

variable {offset : Nat} {cs gap : List Char}

/-- A scan passes over a gap. -/
theorem scan_gap (blank : IsGap gap) :
    scan offset (gap ++ cs) = scan (offset + utf8Length gap) cs := by
  rw [isGap_iff] at blank
  induction gap generalizing offset with
  | nil => rfl
  | cons c rest ih =>
    obtain ⟨first, later⟩ := List.forall_mem_cons.mp blank
    rw [List.cons_append, scan, if_pos first, ih later, Nat.add_assoc]
    rfl

/-- A scan takes the longest token in front. -/
theorem scan_token {source rest : List Char} {lexeme : Lexeme} (spelled : lexeme.Spelled source)
    (longest : lexeme.Ends rest) :
    scan offset (source ++ rest) =
      (⟨lexeme, offset⟩ :: (scan (offset + utf8Length source) rest).1,
        (scan (offset + utf8Length source) rest).2) := by
  have read : Lexeme.read? (source ++ rest) = some ⟨lexeme, source, rest⟩ :=
    Lexeme.read?_eq_some_iff.mpr ⟨rfl, spelled, longest⟩
  obtain ⟨c, more, rfl, -⟩ := spelled.exists_cons
  rw [List.cons_append] at read ⊢
  rw [scan, if_neg (by simp [spelled.isGap_eq_false])]
  split
  · next failed => rw [read] at failed; cases failed
  · next found => rw [read] at found; cases found; rfl

/-- A row of longest tokens is scanned to its end. -/
theorem Decomposes.scan_eq {before : List Char} {tokens : List Token}
    (row : Decomposes before cs tokens) : scan (utf8Length before) cs = (tokens, none) := by
  induction row with
  | @done before gap blank =>
    rw [← List.append_nil gap, scan_gap blank, scan]
  | token blank spelled longest _ ih =>
    rw [List.append_assoc, scan_gap blank, scan_token spelled longest, ← utf8Length_append,
      ← utf8Length_append, ih, utf8Length_eq_utf8ByteSize]

/-- A character more in a gap. -/
theorem Decomposes.cons_gap {before : List Char} {c : Char} {tokens : List Token}
    (blank : Text.isGap c = true) (row : Decomposes (before ++ [c]) cs tokens) :
    Decomposes before (c :: cs) tokens := by
  cases row with
  | done rest => exact .done (rest.cons blank)
  | @token _ gap source _ _ _ rest spelled ends later =>
    have shift : before ++ [c] ++ gap = before ++ (c :: gap) := by simp
    rw [shift] at later ⊢
    exact .token (rest.cons blank) spelled ends later

/-- What a scan finds is a row of longest tokens. It either takes all characters or stops
before a character that is no gap and at which no token can start. -/
theorem exists_decomposes_scan {before : List Char} (place : offset = utf8Length before) :
    ∃ front back, cs = front ++ back ∧ Decomposes before front (scan offset cs).1 ∧
      ((scan offset cs).2 = none ∧ back = [] ∨
        ∃ c rest, (scan offset cs).2 = some (utf8Length (before ++ front), c) ∧
          back = c :: rest ∧ Text.isGap c = false ∧ Lexeme.NoStart c rest) := by
  -- along the scan, where all that has been passed stays in `before`
  fun_induction scan offset cs generalizing before with
  | case1 offset =>
    exact ⟨[], [], rfl, .done isGap_nil, .inl ⟨rfl, rfl⟩⟩
  | case2 offset c rest blank ih =>
    have next : offset + c.utf8Size = utf8Length (before ++ [c]) := by
      rw [utf8Length_append, ← place]
      rfl
    obtain ⟨front, back, rfl, row, stop⟩ := ih next
    rw [List.append_assoc, List.singleton_append] at stop
    exact ⟨c :: front, back, rfl, row.cons_gap blank, stop⟩
  | case3 offset c rest noGap unread =>
    refine ⟨[], c :: rest, rfl, .done isGap_nil, .inr ⟨c, rest, ?_, rfl, ?_, ?_⟩⟩
    · rw [List.append_nil, place]
    · simpa using noGap
    · exact Lexeme.read?_eq_none_iff.mp unread
  | case4 offset c rest noGap r front tokens stop scanned ih =>
    obtain ⟨whole, spelled, longest⟩ := Lexeme.read?_eq_some_iff.mp front
    have next : offset + utf8Length r.source = utf8Length (before ++ r.source) := by
      rw [utf8Length_append, place]
    obtain ⟨more, back, same, row, stop⟩ := ih next
    rw [same] at whole longest
    rw [List.append_assoc] at stop
    rw [scanned] at row stop
    refine ⟨r.source ++ more, back, by rw [whole, List.append_assoc], ?_, stop⟩
    have first := @Decomposes.token before [] _ _ _ _ isGap_nil spelled
      longest.of_append (by simpa using row)
    simpa [place, utf8Length_eq_utf8ByteSize] using first

end Token

/-! ### Texts -/

theorem tokenize_eq_ok_iff_scan {text : String} {tokens : List Token} :
    tokenize text = .ok tokens ↔ Token.scan 0 text.toList = (tokens, none) := by
  unfold tokenize
  split
  · next found => simp [found]
  · next found => simp [found]

/-- A row of longest tokens is read to its end. -/
theorem Token.Decomposes.tokenize_eq_ok {text : String} {tokens : List Token}
    (row : Token.Decomposes [] text.toList tokens) : tokenize text = .ok tokens :=
  tokenize_eq_ok_iff_scan.mpr row.scan_eq

/-- What is read to its end is a row of longest tokens. -/
theorem Token.decomposes_of_tokenize {text : String} {tokens : List Token}
    (scanned : tokenize text = .ok tokens) : Token.Decomposes [] text.toList tokens := by
  obtain ⟨front, back, same, row, stop⟩ :=
    @exists_decomposes_scan 0 text.toList [] rfl
  rw [tokenize_eq_ok_iff_scan.mp scanned] at row stop
  obtain rfl : back = [] := by simpa using stop
  rw [same, List.append_nil]
  exact row

/-- A text is read to its end exactly if it is a row of tokens with gaps of white space and
commas around them, of which none could be longer, and then these tokens are what is read. -/
theorem tokenize_eq_ok_iff (text : String) (tokens : List Token) :
    tokenize text = .ok tokens ↔ Token.Decomposes [] text.toList tokens :=
  ⟨Token.decomposes_of_tokenize, Token.Decomposes.tokenize_eq_ok⟩

/-- Where reading stops, the text up to that place is read to its end, with the tokens that
the error holds, and at the character there no token can start. -/
theorem exists_split_of_tokenize_eq_error {text : String} {e : TokenizeError}
    (failed : tokenize text = .error e) :
    ∃ before after : String, text = before ++ String.singleton e.char ++ after ∧
      e.offset = before.utf8ByteSize ∧ tokenize before = .ok e.tokens ∧
      Text.isBlank e.char = false ∧ e.char ≠ ',' ∧ Lexeme.NoStart e.char after.toList := by
  obtain ⟨front, back, same, row, stop⟩ :=
    @Token.exists_decomposes_scan 0 text.toList [] rfl
  unfold tokenize at failed
  split at failed
  · cases failed
  · next tokens offset c found =>
    cases failed
    rw [found] at row stop
    rcases stop with ⟨none, -⟩ | ⟨d, rest, place, rfl, noGap, noStart⟩
    · cases none
    · cases place
      simp only [Text.isGap, Bool.or_eq_false_iff, beq_eq_false_iff_ne] at noGap
      -- the scanned part is a row by itself, so read alone it gives the same tokens
      refine ⟨String.ofList front, String.ofList rest, ?_, ?_, ?_, noGap.1, noGap.2, ?_⟩
      · apply String.toList_injective
        simp [same]
      · exact utf8Length_eq_utf8ByteSize front
      · rw [← String.toList_ofList (l := front)] at row
        exact row.tokenize_eq_ok
      · rw [String.toList_ofList]
        exact noStart

/-- The quoted text at the end has only an escaped mark behind it. -/
theorem exists_split_of_tokenize_eq_error_of_escaped_mark :
    tokenize "n = \"é\" \"7.\\\"" =
        .error ⟨9, '"', [⟨.word "n", 0⟩, ⟨.symbol "=", 2⟩, ⟨.text "é", 4⟩]⟩ ∧
      ∃ before after : String, "n = \"é\" \"7.\\\"" = before ++ String.singleton '"' ++ after ∧
        9 = before.utf8ByteSize ∧
        tokenize before = .ok [⟨.word "n", 0⟩, ⟨.symbol "=", 2⟩, ⟨.text "é", 4⟩] ∧
        Text.isBlank '"' = false ∧ '"' ≠ ',' ∧ Lexeme.NoStart '"' after.toList := by
  have failed : tokenize "n = \"é\" \"7.\\\"" =
      .error ⟨9, '"', [⟨.word "n", 0⟩, ⟨.symbol "=", 2⟩, ⟨.text "é", 4⟩]⟩ := by
    decide +kernel
  obtain ⟨before, after, whole, place, read, noBlank, noComma, noStart⟩ :=
    exists_split_of_tokenize_eq_error failed
  exact ⟨failed, before, after, whole, place, read, noBlank, noComma, noStart⟩

end RecordFilter
