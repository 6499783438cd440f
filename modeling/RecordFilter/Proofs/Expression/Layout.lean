import RecordFilter.Proofs.Expression.Prefixes
import RecordFilter.Proofs.Token.Decomposition

/-!
# The layout of expressions

White space and commas separate tokens and mean nothing else. No token goes on over a gap, so
what stands behind a gap is read as if it stood alone, only further on in the text. And since
nothing but the lexemes counts when tokens are read, a text with other gaps between its tokens
stands for the same condition or has the same error.

## Main definitions

* `Token.shift`: a token further on in a text
* `Layout`: a text cut into gaps and the sources of tokens
* `Layout.Cuts`: the text is cut at its tokens

## Main results

* `Token.scan_add`: reading further on in a text finds the same tokens further on
* `Token.Decomposes.scan_append`: reading goes on behind a gap
* `Layout.exists_decomposes`: sources with gaps between them are read as they are spelled
* `parse_layout`: other gaps change the places of the tokens and nothing else
-/

namespace RecordFilter

namespace Lexeme

/-- At the end of a text every token is over. -/
theorem ends_nil (l : Lexeme) : l.Ends [] := by
  cases l with
  | opening | closing | text => trivial
  | word | symbol => simp [Ends]
  | number => exact ⟨by simp, fun _ _ _ same => by cases same⟩

/-- A character of a gap belongs to no token that could stand in front of it. -/
theorem apart_of_isGap {c : Char} (gap : Text.isGap c = true) :
    c.isAlphanum = false ∧ c.isDigit = false ∧ c ∉ '_' :: '.' :: comparisonChars := by
  have noAlphanumeric : ¬ (c.isAlpha = true ∨ c.isDigit = true) := fun alphanumeric => by
    rw [isGap_eq_false_of_isAlphanum alphanumeric] at gap
    cases gap
  have noMark : ('_' :: '.' :: comparisonChars).all (!Text.isGap ·) = true := by decide
  simp only [List.all_eq_true, Bool.not_eq_true'] at noMark
  refine ⟨?_, ?_, fun mark => ?_⟩
  · simpa [Char.isAlphanum] using noAlphanumeric
  · simpa using (not_or.mp noAlphanumeric).2
  · rw [noMark c mark] at gap
    cases gap

/-- A token that is over before some characters is over before them if a gap follows. -/
theorem Ends.append_gap {l : Lexeme} {rest : List Char} (ends : l.Ends rest) {c : Char}
    (gap : Text.isGap c = true) (more : List Char) : l.Ends (rest ++ c :: more) := by
  obtain ⟨noAlphanumeric, noDigit, noMark⟩ := apart_of_isGap gap
  simp only [List.mem_cons, not_or] at noMark
  obtain ⟨noLine, noPoint, noComparison⟩ := noMark
  cases l with
  | opening | closing | text => trivial
  | word s =>
    cases rest with
    | nil => simpa [Ends] using And.intro noAlphanumeric noLine
    | cons d tail => exact ends
  | symbol s =>
    cases rest with
    | nil => simpa [Ends] using noComparison
    | cons d tail => exact ends
  | number s =>
    rcases rest with _ | ⟨d, _ | ⟨e, tail⟩⟩
    · refine ⟨by simpa using noDigit, fun _ d tail same => ?_⟩
      exact absurd (List.cons.inj same).1 noPoint
    · refine ⟨ends.1, fun _ e tail same => ?_⟩
      obtain ⟨-, later⟩ := List.cons.inj same
      rw [← (List.cons.inj later).1]
      exact noDigit
    · refine ⟨ends.1, fun unbroken e' tail' same => ?_⟩
      rw [List.cons_append, List.cons_append] at same
      obtain ⟨rfl, later⟩ := List.cons.inj same
      obtain ⟨rfl, -⟩ := List.cons.inj later
      exact ends.2 unbroken e tail rfl

/-- Before a gap every token is over, and an empty gap at the end does no harm. -/
theorem ends_gap (l : Lexeme) {gap : List Char} (blank : Token.IsGap gap) (rest : List Char)
    (nonempty : gap = [] → rest = []) : l.Ends (gap ++ rest) := by
  cases gap with
  | nil =>
    rw [nonempty rfl]
    exact l.ends_nil
  | cons c more =>
    exact l.ends_nil.append_gap (Token.isGap_iff.mp blank c List.mem_cons_self) (more ++ rest)

end Lexeme

namespace Token

/-- A token that stands `n` bytes further on. -/
def shift (n : Nat) (t : Token) : Token := { t with offset := n + t.offset }

/-- Reading further on in a text finds the same tokens further on, and stops further on. -/
theorem scan_add (n offset : Nat) (cs : List Char) :
    scan (n + offset) cs = ((scan offset cs).1.map (shift n),
      (scan offset cs).2.map fun stop => (n + stop.1, stop.2)) := by
  fun_induction scan offset cs with
  | case1 offset => rw [scan]; rfl
  | case2 offset c rest blank ih => rw [scan, if_pos blank, Nat.add_assoc, ih]
  | case3 offset c rest noGap unread =>
    rw [scan, if_neg noGap]
    split
    · rfl
    · next found => rw [unread] at found; cases found
  | case4 offset c rest noGap r front tokens stop scanned ih =>
    rw [scan, if_neg noGap]
    split
    · next failed => rw [front] at failed; cases failed
    · next found =>
      rw [front] at found
      cases found
      rw [Nat.add_assoc, ih, scanned]
      rfl

/-- Behind a row of tokens and a gap, reading goes on with what stands there. -/
theorem Decomposes.scan_append {before cs : List Char} {tokens : List Token}
    (row : Decomposes before cs tokens) {gap : List Char} (blank : IsGap gap) (nonempty : gap ≠ [])
    (rest : List Char) :
    scan (utf8Length before) (cs ++ gap ++ rest) =
      (tokens ++ (scan (utf8Length (before ++ cs ++ gap)) rest).1,
        (scan (utf8Length (before ++ cs ++ gap)) rest).2) := by
  induction row with
  | @done before front frontBlank =>
    have both : IsGap (front ++ gap) := fun c member =>
      (List.mem_append.mp member).elim (frontBlank c) (blank c)
    rw [scan_gap both, ← utf8Length_append, List.append_assoc]
    rfl
  | @token before front source later lexeme tokens frontBlank spelled longest _ ih =>
    obtain ⟨c, more, rfl⟩ := List.exists_cons_of_ne_nil nonempty
    have first : Text.isGap c = true := isGap_iff.mp blank c List.mem_cons_self
    have stillLongest : lexeme.Ends (later ++ (c :: more) ++ rest) := by
      rw [List.append_assoc]
      exact longest.append_gap first (more ++ rest)
    have parts : front ++ source ++ later ++ (c :: more) ++ rest =
        front ++ (source ++ (later ++ (c :: more) ++ rest)) := by simp
    have place : before ++ (front ++ source ++ later) ++ (c :: more) =
        before ++ front ++ source ++ later ++ (c :: more) := by simp
    rw [parts, scan_gap frontBlank, scan_token spelled stillLongest, ← utf8Length_append,
      ← utf8Length_append, ih, utf8Length_eq_utf8ByteSize (before ++ front), place]
    rfl

end Token

/-! ### Layouts -/

/-- A text cut into gaps and sources of tokens. Each part is a source with the gap before it. -/
structure Layout where
  parts : List (List Char × List Char)
  ending : List Char

namespace Layout

/-- The text that is cut. -/
def chars (l : Layout) : List Char := l.parts.flatMap (fun part => part.1 ++ part.2) ++ l.ending

def sources (l : Layout) : List (List Char) := l.parts.map Prod.snd

def gaps (l : Layout) : List (List Char) := l.parts.map Prod.fst ++ [l.ending]

/-- No two tokens touch each other. -/
def Spaced (l : Layout) : Prop := ∀ part ∈ l.parts.tail, part.1 ≠ []

/-- Only white space and commas are cut out as gaps. -/
def Blank (l : Layout) : Prop := ∀ gap ∈ l.gaps, Token.IsGap gap

/-- The sources are spellings of some lexemes, one after another. -/
def Spells (l : Layout) (lexemes : List Lexeme) : Prop :=
  List.Forall₂ (fun source lexeme => lexeme.Spelled source) l.sources lexemes

/-- The text is cut at its tokens. -/
def Cuts (l : Layout) (text : String) (tokens : List Token) : Prop :=
  l.Blank ∧ l.Spells (tokens.map Token.lexeme) ∧ text.toList = l.chars

end Layout

/-- A row of tokens is cut between them. -/
theorem Token.Decomposes.exists_layout {before cs : List Char} {tokens : List Token}
    (row : Decomposes before cs tokens) :
    ∃ l : Layout, l.Blank ∧ l.Spells (tokens.map lexeme) ∧ cs = l.chars := by
  induction row with
  | @done _ gap blank =>
    exact ⟨⟨[], gap⟩, by simpa [Layout.Blank, Layout.gaps] using blank, .nil, rfl⟩
  | @token _ gap source _ _ _ blank spelled _ _ ih =>
    obtain ⟨l, blanks, spellings, rfl⟩ := ih
    refine ⟨⟨(gap, source) :: l.parts, l.ending⟩, ?_, .cons spelled spellings, ?_⟩
    · exact List.forall_mem_cons.mpr ⟨blank, blanks⟩
    · simp [Layout.chars]

/-- Spellings of lexemes with gaps between them are a row of longest tokens. -/
theorem Layout.exists_decomposes {lexemes : List Lexeme} {ending : List Char}
    {parts : List (List Char × List Char)} (blank : Blank ⟨parts, ending⟩)
    (spells : Spells ⟨parts, ending⟩ lexemes) (spaced : Spaced ⟨parts, ending⟩)
    (before : List Char) : ∃ tokens, Token.Decomposes before (chars ⟨parts, ending⟩) tokens ∧
      tokens.map Token.lexeme = lexemes := by
  induction parts generalizing before lexemes with
  | nil =>
    cases spells
    exact ⟨[], .done (blank ending List.mem_cons_self), rfl⟩
  | cons part parts ih =>
    obtain ⟨gap, source⟩ := part
    cases spells with
    | @cons _ lexeme _ lexemes spelled spellings =>
      obtain ⟨first, blanks⟩ := List.forall_mem_cons.mp blank
      obtain ⟨tokens, row, same⟩ := ih blanks spellings
        (fun part member => spaced part (List.mem_of_mem_tail member)) (before ++ gap ++ source)
      have longest : lexeme.Ends (chars ⟨parts, ending⟩) := by
        cases parts with
        | nil =>
          have ended := lexeme.ends_gap (blanks ending List.mem_cons_self) [] fun _ => rfl
          rwa [List.append_nil] at ended
        | cons next later =>
          have ended := lexeme.ends_gap (blanks next.1 List.mem_cons_self)
            (next.2 ++ chars ⟨later, ending⟩)
            fun empty => absurd empty (spaced next List.mem_cons_self)
          simpa [chars] using ended
      have whole : chars ⟨(gap, source) :: parts, ending⟩ =
          gap ++ source ++ chars ⟨parts, ending⟩ := by
        simp [chars]
      rw [whole]
      exact ⟨_, .token first spelled longest row, congrArg (lexeme :: ·) same⟩

theorem tokenize_eq_error_iff_scan {text : String} {e : TokenizeError} :
    tokenize text = .error e ↔ Token.scan 0 text.toList = (e.tokens, some (e.offset, e.char)) := by
  obtain ⟨offset, c, tokens⟩ := e
  unfold tokenize
  split
  · next found => simp [found]
  · next found =>
    simp only [found, Except.error.injEq, TokenizeError.mk.injEq, Prod.mk.injEq, Option.some.injEq]
    tauto

/-- Other gaps between the same sources change the places of the tokens and nothing else, so the
text stands for the same condition or has the same error. Behind a gap a text is read as if it
stood alone, only further on. -/
theorem parse_layout :
    (∀ text tokens, tokenize text = .ok tokens →
      (∃ l : Layout, l.Cuts text tokens) ∧
      ∀ l l' : Layout, l.Cuts text tokens → l'.sources = l.sources → l'.Blank → l'.Spaced →
        (∃ tokens', tokenize (String.ofList l'.chars) = .ok tokens' ∧
          tokens'.map Token.lexeme = tokens.map Token.lexeme) ∧
        ∀ schema, parse schema (String.ofList l'.chars) = parse schema text) ∧
    ∀ front gap back tokens, tokenize front = .ok tokens → gap ≠ "" → Token.IsGap gap.toList →
      (∀ later, tokenize back = .ok later →
        tokenize (front ++ gap ++ back) =
          .ok (tokens ++ later.map (Token.shift (front ++ gap).utf8ByteSize))) ∧
      ∀ e, tokenize back = .error e →
        tokenize (front ++ gap ++ back) =
          .error ⟨(front ++ gap).utf8ByteSize + e.offset, e.char,
            tokens ++ e.tokens.map (Token.shift (front ++ gap).utf8ByteSize)⟩ := by
  refine ⟨fun text tokens read => ⟨(Token.decomposes_of_tokenize read).exists_layout, ?_⟩,
    fun front gap back tokens read nonempty blank => ?_⟩
  · rintro l l' ⟨-, spells, -⟩ same blank spaced
    rw [Layout.Spells, ← same] at spells
    obtain ⟨tokens', row, lexemes⟩ := Layout.exists_decomposes blank spells spaced []
    rw [← String.toList_ofList (l := Layout.chars _)] at row
    have reread := row.tokenize_eq_ok
    refine ⟨⟨tokens', reread, lexemes⟩, fun schema => ?_⟩
    rw [parse, reread, parse, read]
    exact parseTokens_congr schema lexemes
  · have row := Token.decomposes_of_tokenize read
    have whole := row.scan_append blank (by simpa using nonempty) back.toList
    have place : utf8Length ([] ++ front.toList ++ gap.toList) = (front ++ gap).utf8ByteSize := by
      rw [utf8Length_eq_utf8ByteSize]
      simp
    have further := Token.scan_add (front ++ gap).utf8ByteSize 0 back.toList
    rw [Nat.add_zero] at further
    rw [place, further, ← String.toList_append, ← String.toList_append] at whole
    refine ⟨fun later found => ?_, fun e failed => ?_⟩
    · rw [tokenize_eq_ok_iff_scan.mp found] at whole
      exact tokenize_eq_ok_iff_scan.mpr whole
    · rw [tokenize_eq_error_iff_scan.mp failed] at whole
      exact tokenize_eq_error_iff_scan.mpr whole

/-- Tokens that touch are taken apart, and a letter of two bytes moves what stands behind it. -/
theorem parse_layout_of_touching_tokens :
    let schema := Schema.ofList [("n", .int .u8)]
    let cut : Layout :=
      ⟨[([], ['n']), ([], ['=']), ([], ['7']), ([','], ['O', 'R'])], []⟩
    let relaid : Layout :=
      ⟨[([','], ['n']), ([' '], ['=']), (['\n', '\t'], ['7']), ([' ', ','], ['O', 'R'])], [',']⟩
    cut.Cuts "n=7,OR" [⟨.word "n", 0⟩, ⟨.symbol "=", 1⟩, ⟨.number "7", 2⟩, ⟨.word "OR", 4⟩] ∧
    relaid.sources = cut.sources ∧ relaid.Blank ∧ relaid.Spaced ∧
    parse schema "n=7,OR" = .error (.unfinished "OR") ∧
    parse schema (String.ofList relaid.chars) = .error (.unfinished "OR") ∧
    tokenize "\"é\"" = .ok [⟨.text "é", 0⟩] ∧
    tokenize ("\"é\"" ++ ", " ++ "n=") =
      .ok [⟨.text "é", 0⟩, ⟨.word "n", 6⟩, ⟨.symbol "=", 7⟩] ∧
    tokenize ("\"é\"" ++ ", " ++ "n?") = .error ⟨7, '?', [⟨.text "é", 0⟩, ⟨.word "n", 6⟩]⟩ := by
  intro schema cut relaid
  have read : tokenize "n=7,OR" =
      .ok [⟨.word "n", 0⟩, ⟨.symbol "=", 1⟩, ⟨.number "7", 2⟩, ⟨.word "OR", 4⟩] := by
    decide +kernel
  have spelled {l : Lexeme} {cs : List Char}
      (front : (Lexeme.read? cs).map (fun r => (r.lexeme, r.source)) = some (l, cs)) :
      l.Spelled cs := by
    obtain ⟨r, found, same⟩ := Option.map_eq_some_iff.mp front
    cases same
    exact (Lexeme.read?_eq_some_iff.mp found).2.1
  have isGap {cs : List Char} (all : cs.all Text.isGap = true) : Token.IsGap cs :=
    Token.isGap_iff.mpr (List.all_eq_true.mp all)
  have isBlank {l : Layout} (all : l.gaps.all (List.all · Text.isGap) = true) : l.Blank :=
    fun gap member => isGap (List.all_eq_true.mp all gap member)
  have cuts : cut.Cuts "n=7,OR"
      [⟨.word "n", 0⟩, ⟨.symbol "=", 1⟩, ⟨.number "7", 2⟩, ⟨.word "OR", 4⟩] := by
    refine ⟨isBlank (by decide +kernel), .cons ?_ (.cons ?_ (.cons ?_ (.cons ?_ .nil))),
      by decide +kernel⟩
    all_goals exact spelled (by decide +kernel)
  have blank : relaid.Blank := isBlank (by decide +kernel)
  have spaced : relaid.Spaced := by
    simp only [Layout.Spaced]
    decide +kernel
  have unfinished : parse schema "n=7,OR" = .error (.unfinished "OR") := by
    have rows : Expression.read schema
        [⟨.word "n", 0⟩, ⟨.symbol "=", 1⟩, ⟨.number "7", 2⟩, ⟨.word "OR", 4⟩] =
        .error (.unfinished (some ⟨.word "OR", 4⟩)) := by decide +kernel
    simp only [parse, read, parseTokens, rows]
    rfl
  obtain ⟨-, again⟩ := (parse_layout.1 _ _ read).2 cut relaid cuts rfl blank spaced
  have front : tokenize "\"é\"" = .ok [⟨.text "é", 0⟩] := by decide +kernel
  have gap : Token.IsGap ", ".toList := isGap (by decide +kernel)
  obtain ⟨later, -⟩ := parse_layout.2 "\"é\"" ", " "n=" _ front (by decide) gap
  obtain ⟨-, stops⟩ := parse_layout.2 "\"é\"" ", " "n?" _ front (by decide) gap
  exact ⟨cuts, rfl, blank, spaced, unfinished, (again schema).trans unfinished, front,
    later [⟨.word "n", 0⟩, ⟨.symbol "=", 1⟩] (by decide +kernel),
    stops ⟨1, '?', [⟨.word "n", 0⟩]⟩ (by decide +kernel)⟩

end RecordFilter
