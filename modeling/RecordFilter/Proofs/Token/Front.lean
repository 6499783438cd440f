import RecordFilter.Proofs.Expression.Layout

/-!
# Tokens in front of a text

What stands behind some tokens may be any text, and need not be one that can be read to its
end. If the tokens in front could not be longer where they stand, reading takes them as they
are and goes on behind them as if the rest stood alone. So a text can be described part by
part, with the tokens of its front and the characters that are left.

## Main definitions

* `Token.Begins`: some characters begin with tokens

## Main results

* `Token.Begins.exists_scan`: reading takes the tokens in front and goes on behind them
* `Token.Begins.tokenize_iff`: the texts that are read to their end, by what is left
-/

namespace RecordFilter

/-- The characters begin with the tokens, of which none could be longer, and go on as `back`
behind them and another gap. -/
inductive Token.Begins (back : List Char) : List Char → List Lexeme → Prop
  | done {gap : List Char} (blank : IsGap gap) : Begins back (gap ++ back) []
  | token {gap source rest : List Char} {lexeme : Lexeme} {front : List Lexeme}
      (blank : IsGap gap) (spelled : lexeme.Spelled source) (longest : lexeme.Ends rest)
      (later : Begins back rest front) : Begins back (gap ++ source ++ rest) (lexeme :: front)

namespace Token

variable {back cs : List Char} {front : List Lexeme}

theorem begins_nil (back : List Char) : Begins back back [] := .done isGap_nil

/-- A character more in the gap in front of the tokens. -/
theorem Begins.cons_gap {c : Char} (blank : Text.isGap c = true) (begins : Begins back cs front) :
    Begins back (c :: cs) front := by
  cases begins with
  | done rest => exact .done (rest.cons blank)
  | token rest spelled longest later => exact .token (rest.cons blank) spelled longest later

/-- A token in front of the others that may touch the first of them. -/
theorem Begins.cons {source : List Char} {l : Lexeme} (spelled : l.Spelled source)
    (longest : l.Ends cs) (later : Begins back cs front) :
    Begins back (source ++ cs) (l :: front) := by
  have whole := Begins.token isGap_nil spelled longest later
  rwa [List.nil_append] at whole

/-- A token that is read in front of the others. -/
theorem Begins.cons_read {r : Reading} (read : Lexeme.read? cs = some r)
    (later : Begins back r.rest front) : Begins back cs (r.lexeme :: front) := by
  obtain ⟨rfl, spelled, longest⟩ := Lexeme.read?_eq_some_iff.mp read
  exact later.cons spelled longest

/-- Reading takes the tokens in front and goes on behind them, further on in the text. -/
theorem Begins.exists_scan (begins : Begins back cs front) (offset : Nat) :
    ∃ tokens place, tokens.map lexeme = front ∧
      scan offset cs = (tokens ++ (scan place back).1, (scan place back).2) := by
  induction begins generalizing offset with
  | done blank => exact ⟨[], _, rfl, scan_gap blank⟩
  | @token gap source rest l front blank spelled longest _ ih =>
    obtain ⟨tokens, place, same, scanned⟩ := ih (offset + utf8Length gap + utf8Length source)
    refine ⟨⟨l, offset + utf8Length gap⟩ :: tokens, place, congrArg (l :: ·) same, ?_⟩
    rw [List.append_assoc, scan_gap blank, scan_token spelled longest, scanned]
    rfl

/-- A text that begins with tokens is read to its end exactly if what stands behind them is, and
as the same tokens. -/
theorem Begins.tokenize_iff {text operand : String}
    (begins : Begins operand.toList text.toList front) (lexemes : List Lexeme) :
    (∃ tokens, tokenize text = .ok tokens ∧ tokens.map lexeme = lexemes) ↔
      ∃ later, tokenize operand = .ok later ∧ front ++ later.map lexeme = lexemes := by
  obtain ⟨tokens, place, rfl, scanned⟩ := begins.exists_scan 0
  have further := scan_add place 0 operand.toList
  rw [Nat.add_zero] at further
  rw [further] at scanned
  simp only [tokenize_eq_ok_iff_scan, scanned]
  obtain ⟨later, stop⟩ := scan 0 operand.toList
  have kept : (tokens ++ later.map (shift place)).map lexeme =
      tokens.map lexeme ++ later.map lexeme := by
    rw [List.map_append, List.map_map]
    rfl
  cases stop with
  | some stop => simp
  | none => simp [kept]

end Token

end RecordFilter
