import RecordFilter.Proofs.Expression.Parsing

/-!
# Reading never looks ahead

Every reader takes token after token and decides on each by its lexeme alone. Where a row of
tokens is wrong, it is therefore wrong in the same way with any tokens behind it and at any
places of the text. Only a row that ends inside a clause can become right, and what is cited
then is its last token.

Two rows are read side by side, where the second one has the lexemes of the first and then
more. A reader is described once, by how its two outcomes compare; the comparison composes as
the readers do.

## Main definitions

* `Continues`: a place in a row, and the same place in a row that goes on
* `Follows`: how the outcome on a row that goes on compares with the outcome on the row

## Main results

* `Expression.follows_read`: a row and one that goes on are read alike
* `parseTokens_congr`: where the tokens stand does not matter
* `parseTokens_append`: errors are decided by the tokens up to them
-/

namespace RecordFilter

/-- Two places in two rows of tokens, each given by the token before it and the tokens from
there on. The second row has the lexemes of the first and then `extra`, and the first row ends
with the token `last`. -/
structure Continues (extra : List Lexeme) (last : Option Token)
    (place other : Option Token × List Token) : Prop where
  lexemes : other.2.map Token.lexeme = place.2.map Token.lexeme ++ extra
  before : other.1.map Token.lexeme = place.1.map Token.lexeme
  last : place.2.getLast?.or place.1 = last

/-- How the outcome `y` on a row that goes on by `extra` compares with the outcome on the row,
which ends with `last`. A result has to be matched as `ok` says. An error is met again, unless
the row ended too early and does go on; if it ended too early, `last` is what is cited. -/
inductive Follows {α β : Type} (extra : List Lexeme) (last : Option Token)
    (ok : α → Except Defect β → Prop) : Except Defect α → Except Defect β → Prop
  | result {a : α} {y : Except Defect β} (matched : ok a y) : Follows extra last ok (.ok a) y
  | failure {d : Defect} {y : Except Defect β} (cited : ∀ t, d = .unfinished t → t = last)
      (again : extra = [] ∨ (∀ t, d ≠ .unfinished t) →
        ∃ d', y = .error d' ∧ d'.toParseError = d.toParseError) :
      Follows extra last ok (.error d) y

/-- A result that leaves some tokens is matched by the same result at the same place. -/
def Leaves {α : Type} (extra : List Lexeme) (last : Option Token) (a : α × List Token)
    (y : Except Defect (α × List Token)) : Prop :=
  ∃ before before' rest, y = .ok (a.1, rest) ∧ Continues extra last (before, a.2) (before', rest)

variable {α β γ δ : Type} {extra : List Lexeme} {last : Option Token}

namespace Continues

variable {before before' : Option Token} {t : Token} {tokens longer : List Token}

/-- In front of two places stands one lexeme, and behind it the rows go on alike. -/
theorem next (h : Continues extra last (before, t :: tokens) (before', longer)) :
    ∃ place rest, longer = ⟨t.lexeme, place⟩ :: rest ∧
      Continues extra last (some t, tokens) (some ⟨t.lexeme, place⟩, rest) := by
  obtain ⟨lexemes, -, ends⟩ := h
  obtain ⟨⟨l, place⟩, rest, rfl, same, later⟩ := List.map_eq_cons_iff.mp lexemes
  obtain rfl : l = t.lexeme := same
  refine ⟨place, rest, rfl, later, rfl, ?_⟩
  rw [← ends, List.getLast?_cons]
  cases tokens.getLast? <;> rfl

/-- Where the first row ends, it is unfinished, and so is the second if it ends, too. -/
theorem unfinished {ok : α → Except Defect β → Prop} {y : Except Defect β}
    (h : Continues extra last (before, []) (before', longer))
    (ends : longer = [] → y = .error (.unfinished before')) :
    Follows extra last ok (.error (.unfinished before)) y := by
  obtain ⟨lexemes, same, atEnd⟩ := h
  refine .failure (fun t cited => ?_) ?_
  · cases cited
    simpa using atEnd
  · rintro (rfl | settled)
    · refine ⟨_, ends (List.map_eq_nil_iff.mp lexemes), ?_⟩
      have shown := congrArg (Option.map Lexeme.display) same
      rw [Option.map_map, Option.map_map] at shown
      exact congrArg (fun cited => ParseError.unfinished (cited.getD "")) shown
    · exact absurd rfl (settled before)

end Continues

namespace Follows

variable {ok : α → Except Defect β → Prop}

/-- A token that is wrong is wrong in both rows. -/
theorem wrong (t : Token) (place : Nat) (cause : OperationError) :
    Follows extra last ok (.error (.invalidOperation t cause))
      (.error (.invalidOperation ⟨t.lexeme, place⟩ cause)) :=
  .failure (by simp) fun _ => ⟨_, rfl, rfl⟩

/-- Readers that compare can be put one after the other. -/
theorem bind {x : Except Defect α} {y : Except Defect β} {f : α → Except Defect γ}
    {g : β → Except Defect δ} {done : γ → Except Defect δ → Prop} (h : Follows extra last ok x y)
    (step : ∀ a y, x = .ok a → ok a y → Follows extra last done (f a) (y >>= g)) :
    Follows extra last done (x >>= f) (y >>= g) := by
  cases h with
  | result matched => exact step _ _ rfl matched
  | failure cited again =>
    refine .failure cited fun reason => ?_
    obtain ⟨d', rfl, shown⟩ := again reason
    exact ⟨d', rfl, shown⟩

end Follows

/-! ### Parts of clauses -/

namespace Clause

variable {before before' opToken : Token} {tokens longer : List Token} {kind : Option Kind}
  {op : Operator}

theorem follows_readTarget (schema : Schema) (t : Token) (place : Nat) :
    Follows extra last (fun target y => y = .ok target) (readTarget schema t)
      (readTarget schema ⟨t.lexeme, place⟩) := by
  simp only [readTarget, Token.display]
  split
  · split
    · exact .result rfl
    · split
      · exact .result rfl
      · exact .failure (by simp) fun _ => ⟨_, rfl, rfl⟩
  · exact .failure (by simp) fun _ => ⟨_, rfl, rfl⟩

theorem follows_readLiteral (t : Token) (place : Nat) :
    Follows extra last (fun v y => y = .ok v) (readLiteral kind t)
      (readLiteral kind ⟨t.lexeme, place⟩) := by
  simp only [readLiteral, Token.display]
  cases literal? kind t.lexeme with
  | some v => exact .result rfl
  | none => exact .wrong t place _

/-- An operator is matched by the same operator, whose tokens have the same lexemes. -/
theorem follows_readOperator
    (h : Continues extra last (some before, tokens) (some before', longer)) :
    Follows extra last
      (fun a y => ∃ place end' rest, y = .ok (a.1, ⟨a.2.1.lexeme, place⟩, end', rest) ∧
        Continues extra last (some a.2.2.1, a.2.2.2) (some end', rest))
      (readOperator before tokens) (readOperator before' longer) := by
  cases tokens with
  | nil => exact h.unfinished fun ends => by rw [ends]; rfl
  | cons t tail =>
    obtain ⟨place, rest, rfl, later⟩ := h.next
    simp only [readOperator, Token.display]
    split
    · split
      · exact .result ⟨_, _, _, rfl, later⟩
      · exact .wrong t place _
    · split
      · exact .result ⟨_, _, _, rfl, later⟩
      split
      · exact .result ⟨_, _, _, rfl, later⟩
      split
      · cases tail with
        | nil => exact later.unfinished fun ends => by rw [ends]
        | cons next tail =>
          obtain ⟨place', rest, rfl, after⟩ := later.next
          dsimp only
          split
          · exact .result ⟨_, _, _, rfl, after⟩
          split
          · exact .result ⟨_, _, _, rfl, after⟩
          · exact .wrong next place' _
      · exact .wrong t place _

theorem readMembers_cons_of_ne (t : Token) (noClosing : t.lexeme ≠ .closing) :
    readMembers kind before (t :: tokens) = (do
      let v ← readLiteral kind t
      let (members, rest) ← readMembers kind t tokens
      return (v :: members, rest)) := by
  rw [readMembers, if_neg noClosing]
  cases readLiteral kind t with
  | error d => rfl
  | ok v => cases readMembers kind t tokens <;> rfl

theorem follows_readMembers
    (h : Continues extra last (some before, tokens) (some before', longer)) :
    Follows extra last (Leaves extra last) (readMembers kind before tokens)
      (readMembers kind before' longer) := by
  induction tokens generalizing before before' longer with
  | nil => exact h.unfinished fun ends => by rw [ends]; rfl
  | cons t tail ih =>
    obtain ⟨place, rest, rfl, later⟩ := h.next
    by_cases closes : t.lexeme = .closing
    · rw [readMembers, readMembers, if_pos closes, if_pos closes]
      exact .result ⟨_, _, _, rfl, later⟩
    · rw [readMembers_cons_of_ne t closes, readMembers_cons_of_ne ⟨t.lexeme, place⟩ closes]
      refine (follows_readLiteral t place).bind fun v y _ read => ?_
      subst read
      refine (ih later).bind fun members y _ read => ?_
      obtain ⟨_, _, _, rfl, later⟩ := read
      exact .result ⟨_, _, _, rfl, later⟩

theorem readValue_cons (t : Token) :
    readValue op opToken kind before (t :: tokens) = (do
      let v ← readLiteral kind t
      if op.isOrdering && !v.kind.isOrdered then
        .error (.invalidOperation opToken (.notOrdered op v.kind))
      else .ok (.value v, tokens)) := by
  rw [readValue]
  cases readLiteral kind t <;> rfl

theorem follows_readValue (place : Nat)
    (h : Continues extra last (some before, tokens) (some before', longer)) :
    Follows extra last (Leaves extra last) (readValue op opToken kind before tokens)
      (readValue op ⟨opToken.lexeme, place⟩ kind before' longer) := by
  cases tokens with
  | nil => exact h.unfinished fun ends => by rw [ends]; rfl
  | cons t tail =>
    obtain ⟨place', rest, rfl, later⟩ := h.next
    rw [readValue_cons, readValue_cons]
    refine (follows_readLiteral t place').bind fun v y _ read => ?_
    subst read
    change Follows extra last _ (if _ then _ else _) (if _ then _ else _)
    split
    · exact .wrong opToken place _
    · exact .result ⟨_, _, _, rfl, later⟩

theorem readList_cons_of_opening (t : Token) (opens : t.lexeme = .opening) :
    readList op kind before (t :: tokens) = (do
      let (members, rest) ← readMembers kind t tokens
      if members.isEmpty then .error (.invalidOperation t (.emptyList op))
      else
        match ValueSet.ofValues members with
        | .error cause => .error (.invalidOperation t (.badList cause))
        | .ok s => .ok (.set s, rest)) := by
  rw [readList, if_neg (not_not_intro opens)]
  cases readMembers kind t tokens with
  | error d => rfl
  | ok read => rcases read with ⟨_ | ⟨v, members⟩, rest⟩ <;> rfl

theorem follows_readList
    (h : Continues extra last (some before, tokens) (some before', longer)) :
    Follows extra last (Leaves extra last) (readList op kind before tokens)
      (readList op kind before' longer) := by
  cases tokens with
  | nil => exact h.unfinished fun ends => by rw [ends]; rfl
  | cons t tail =>
    obtain ⟨place, rest, rfl, later⟩ := h.next
    by_cases opens : t.lexeme = .opening
    · rw [readList_cons_of_opening t opens, readList_cons_of_opening ⟨t.lexeme, place⟩ opens]
      refine (follows_readMembers later).bind fun read y _ same => ?_
      obtain ⟨_, _, rest, rfl, later⟩ := same
      change Follows extra last _ (if _ then _ else _) (if _ then _ else _)
      split
      · exact .wrong t place _
      · split
        · exact .wrong t place _
        · exact .result ⟨_, _, _, rfl, later⟩
    · simp only [readList, ne_eq, opens, not_false_eq_true, if_true, Token.display]
      exact .wrong t place _

theorem follows_readPattern (place : Nat)
    (h : Continues extra last (some before, tokens) (some before', longer)) :
    Follows extra last (Leaves extra last) (readPattern op opToken kind before tokens)
      (readPattern op ⟨opToken.lexeme, place⟩ kind before' longer) := by
  unfold readPattern
  split
  · exact .wrong opToken place _
  · cases tokens with
    | nil => exact h.unfinished fun ends => by rw [ends]
    | cons t tail =>
      obtain ⟨place', rest, rfl, later⟩ := h.next
      simp only [Token.display]
      split
      · exact .result ⟨_, _, _, rfl, later⟩
      · exact .wrong t place' _

theorem follows_readOperand (place : Nat)
    (h : Continues extra last (some before, tokens) (some before', longer)) :
    Follows extra last (Leaves extra last) (readOperand op opToken kind before tokens)
      (readOperand op ⟨opToken.lexeme, place⟩ kind before' longer) := by
  unfold readOperand
  split
  · exact follows_readList h
  · split
    · exact follows_readPattern place h
    · exact follows_readValue place h

/-! ### Clauses and expressions -/

theorem read_cons (schema : Schema) (previous : Option Token) (t : Token) :
    read schema previous (t :: tokens) = (do
      let target ← readTarget schema t
      let (op, opToken, ending, rest) ← readOperator t tokens
      let (operand, rest) ← readOperand op opToken target.kind? ending rest
      return (⟨target, ⟨op, operand⟩⟩, rest)) := by
  rw [read]
  cases readTarget schema t with
  | error d => rfl
  | ok target =>
    cases readOperator t tokens with
    | error d => rfl
    | ok read =>
      obtain ⟨op, opToken, ending, rest⟩ := read
      dsimp only
      cases operand : readOperand op opToken target.kind? ending rest with
      | error d => simp [bind, Except.bind, operand]
      | ok read => simp [bind, Except.bind, operand]; rfl

theorem follows_read (schema : Schema) {previous previous' : Option Token}
    (h : Continues extra last (previous, tokens) (previous', longer)) :
    Follows extra last (Leaves extra last) (read schema previous tokens)
      (read schema previous' longer) := by
  cases tokens with
  | nil => exact h.unfinished fun ends => by rw [ends]; rfl
  | cons t tail =>
    obtain ⟨place, rest, rfl, later⟩ := h.next
    rw [read_cons, read_cons]
    refine (follows_readTarget schema t place).bind fun target y _ read => ?_
    subst read
    refine (follows_readOperator later).bind fun operator y _ read => ?_
    obtain ⟨place', _, _, rfl, later⟩ := read
    refine (follows_readOperand place' later).bind fun operand y _ read => ?_
    obtain ⟨_, _, _, rfl, later⟩ := read
    exact .result ⟨_, _, _, rfl, later⟩

end Clause

variable {tokens longer : List Token}

/-- A connective is taken from both rows or from none, and then a clause has to follow. -/
theorem Connective.continues_read (current : Connective) {t : Token} {place : Nat}
    {rest : List Token} {previous previous' : Option Token}
    (h : Continues extra last (previous, t :: tokens) (previous', ⟨t.lexeme, place⟩ :: rest)) :
    (current.read (⟨t.lexeme, place⟩ :: rest)).1 = (current.read (t :: tokens)).1 ∧
      Continues extra last (some t, (current.read (t :: tokens)).2)
        (some ⟨t.lexeme, place⟩, (current.read (⟨t.lexeme, place⟩ :: rest)).2) := by
  have sameToken : ofToken? ⟨t.lexeme, place⟩ = ofToken? t := rfl
  simp only [Connective.read, sameToken]
  cases ofToken? t with
  | some connective =>
    obtain ⟨_, _, same, later⟩ := h.next
    obtain ⟨-, rfl⟩ := List.cons.inj same
    exact ⟨rfl, later.lexemes, rfl, later.last⟩
  | none =>
    refine ⟨rfl, h.lexemes, rfl, ?_⟩
    have ends := h.last
    rw [List.getLast?_cons] at ends ⊢
    exact ends

namespace Expression

theorem readRest_of_ne_nil (schema : Schema) (current : Connective) (nonempty : tokens ≠ []) :
    readRest schema current tokens = (do
      let (clause, rest) ← Clause.read schema tokens.head? (current.read tokens).2
      let items ← readRest schema (current.read tokens).1 rest
      return ((current.read tokens).1, clause) :: items) := by
  have notEmpty : ¬ tokens.isEmpty = true := by simpa using nonempty
  rw [readRest, if_neg notEmpty]
  split
  · next failed => rw [failed]; rfl
  · next clause rest read =>
    rw [read]
    dsimp only
    change _ = (readRest schema (current.read tokens).1 rest >>= _)
    cases readRest schema (current.read tokens).1 rest <;> rfl

/-- The clauses after the first are read alike up to the end of the first row. -/
theorem follows_readRest (schema : Schema) (current : Connective)
    {previous previous' : Option Token}
    (h : Continues extra last (previous, tokens) (previous', longer)) :
    Follows extra last (fun items y => extra = [] → y = .ok items)
      (readRest schema current tokens) (readRest schema current longer) := by
  -- a clause takes at least one token, so what is left is shorter
  induction size : tokens.length using Nat.strongRecOn
    generalizing current previous previous' tokens longer with
  | ind size ih =>
    subst size
    cases tokens with
    | nil =>
      rw [readRest]
      refine .result fun none => ?_
      have ended : longer = [] := by simpa [none] using h.lexemes
      rw [ended, readRest]
      rfl
    | cons t tail =>
      obtain ⟨place, rest, rfl, -⟩ := h.next
      obtain ⟨sameConnective, afterConnective⟩ := current.continues_read h
      rw [readRest_of_ne_nil schema current (List.cons_ne_nil t tail),
        readRest_of_ne_nil schema current (List.cons_ne_nil ⟨t.lexeme, place⟩ rest),
        sameConnective]
      refine (Clause.follows_read schema afterConnective).bind fun clause y read same => ?_
      obtain ⟨_, _, _, rfl, afterClause⟩ := same
      have shorter : clause.2.length < (t :: tail).length :=
        Nat.lt_of_lt_of_le (Clause.length_rest_lt read) (current.length_read_le _)
      refine (ih _ shorter _ afterClause rfl).bind fun items y _ same => ?_
      exact .result fun none => by rw [same none]; rfl

theorem read_cons (schema : Schema) (t : Token) :
    read schema (t :: tokens) = (do
      let (first, rest) ← Clause.read schema none (t :: tokens)
      let items ← readRest schema .and rest
      return some ⟨first, items⟩) := by
  rw [read, if_neg (by simp)]
  cases Clause.read schema none (t :: tokens) with
  | error d => rfl
  | ok read =>
    change Except.map _ (readRest schema .and read.2) = (readRest schema .and read.2 >>= _)
    cases readRest schema .and read.2 <;> rfl

/-- A row and one that goes on behind it are read alike up to the end of the first. -/
theorem follows_read (schema : Schema)
    (goesOn : longer.map Token.lexeme = tokens.map Token.lexeme ++ extra) :
    Follows extra tokens.getLast? (fun e y => extra = [] → y = .ok e) (read schema tokens)
      (read schema longer) := by
  cases tokens with
  | nil =>
    refine .result fun none => ?_
    have ended : longer = [] := by simpa [none] using goesOn
    rw [ended]
    rfl
  | cons t tail =>
    have start : Continues extra (t :: tail).getLast? (none, t :: tail) (none, longer) :=
      ⟨goesOn, rfl, by simp⟩
    obtain ⟨place, rest, rfl, -⟩ := start.next
    rw [read_cons, read_cons]
    refine (Clause.follows_read schema start).bind fun first y _ same => ?_
    obtain ⟨_, _, _, rfl, afterFirst⟩ := same
    refine (follows_readRest schema .and afterFirst).bind fun items y _ same => ?_
    exact .result fun none => by rw [same none]; rfl

end Expression

/-! ### Conditions -/

theorem parseTokens_of_read {schema : Schema} {d : Defect}
    (failed : Expression.read schema tokens = .error d) :
    parseTokens schema tokens = .error d.toParseError := by
  rw [parseTokens, failed]

/-- The condition of a row of tokens depends on the lexemes only, and so does the error. -/
theorem parseTokens_congr (schema : Schema)
    (same : longer.map Token.lexeme = tokens.map Token.lexeme) :
    parseTokens schema longer = parseTokens schema tokens := by
  have follows := Expression.follows_read schema (same.trans (List.append_nil _).symm)
  cases read : Expression.read schema tokens with
  | ok outcome =>
    rw [read] at follows
    cases follows with
    | result matched => rw [parseTokens, parseTokens, read, matched rfl]
  | error d =>
    rw [read] at follows
    cases follows with
    | failure _ again =>
      obtain ⟨d', failed, shown⟩ := again (.inl rfl)
      rw [parseTokens_of_read read, parseTokens_of_read failed, shown]

theorem Defect.toParseError_ne_unfinished {d : Defect} (settled : ∀ t, d ≠ .unfinished t)
    (cited : String) : d.toParseError ≠ .unfinished cited := by
  cases d with
  | unfinished t => exact absurd rfl (settled t)
  | invalidOperation | unknownField => simp [toParseError]

/-- A row is accepted, or wrong with any tokens behind it, or unfinished at its last token. -/
theorem parseTokens_cases (schema : Schema) (tokens more : List Token) :
    (∃ c, parseTokens schema tokens = .ok c) ∨
    (∃ e, (∀ cited, e ≠ .unfinished cited) ∧ parseTokens schema tokens = .error e ∧
      parseTokens schema (tokens ++ more) = .error e) ∨
    ∃ t, tokens.getLast? = some t ∧
      parseTokens schema tokens = .error (.unfinished t.display) := by
  have follows := Expression.follows_read schema (List.map_append : (tokens ++ more).map _ = _)
  cases read : Expression.read schema tokens with
  | ok outcome =>
    rw [parseTokens, read]
    cases outcome <;> exact .inl ⟨_, rfl⟩
  | error d =>
    rw [read] at follows
    cases follows with
    | failure cited again =>
      refine .inr ?_
      by_cases settled : ∀ t, d ≠ .unfinished t
      · obtain ⟨d', failed, shown⟩ := again (.inr settled)
        refine .inl ⟨_, d.toParseError_ne_unfinished settled, parseTokens_of_read read, ?_⟩
        rw [parseTokens_of_read failed, shown]
      · obtain ⟨t, rfl⟩ := Classical.not_forall_not.mp settled
        obtain rfl := cited t rfl
        cases ending : tokens.getLast? with
        | none =>
          rw [List.getLast?_eq_none_iff.mp ending] at read
          cases read
        | some t =>
          rw [ending] at read
          exact .inr ⟨t, rfl, parseTokens_of_read read⟩

/-- An error at a token is decided by the tokens up to it: it stays the same with any tokens
behind them. So the front of an accepted row is accepted or unfinished. An unfinished row is
reported with the token that it ends with. -/
theorem parseTokens_append (schema : Schema) (tokens more : List Token) :
    (∀ e, parseTokens schema tokens = .error e →
      e.code = "INVALID_OPERATION" ∨ e.code = "UNKNOWN_FIELD" →
      parseTokens schema (tokens ++ more) = .error e) ∧
    (∀ c, parseTokens schema (tokens ++ more) = .ok c →
      (∃ front, parseTokens schema tokens = .ok front) ∨
        ∃ cited, parseTokens schema tokens = .error (.unfinished cited)) ∧
    ∀ cited, parseTokens schema tokens = .error (.unfinished cited) →
      ∃ t, tokens.getLast? = some t ∧ cited = t.display := by
  rcases parseTokens_cases schema tokens more with
    ⟨c, accepted⟩ | ⟨e, settled, failed, again⟩ | ⟨t, ending, unfinished⟩
  · rw [accepted]
    exact ⟨by simp, fun _ _ => .inl ⟨c, rfl⟩, by simp⟩
  · rw [failed, again]
    refine ⟨fun _ same _ => same, by simp, fun cited same => ?_⟩
    exact absurd (Except.error.inj same) (settled cited)
  · rw [unfinished]
    refine ⟨fun e same code => ?_, fun _ _ => .inr ⟨_, rfl⟩, fun cited same => ?_⟩
    · cases same
      simp [ParseError.code] at code
    · cases same
      exact ⟨t, ending, rfl⟩

/-- A list that is open, one that is closed too early, and one that is read to its end. -/
theorem parseTokens_append_of_lists :
    let schema := Schema.ofList [("n", .int .u8)]
    let opened : List Token :=
      [⟨.word "n", 0⟩, ⟨.word "not", 2⟩, ⟨.word "IN", 6⟩, ⟨.opening, 9⟩]
    let closed : List Token := opened ++ [⟨.closing, 10⟩]
    let more : List Token := [⟨.number "7", 10⟩, ⟨.closing, 11⟩]
    (parseTokens schema closed = .error (.invalidOperation "(" (.emptyList .notIn)) ∧
      parseTokens schema (closed ++ more) =
        .error (.invalidOperation "(" (.emptyList .notIn))) ∧
    (∃ c, parseTokens schema (opened ++ more) = .ok c ∧
      ((∃ front, parseTokens schema opened = .ok front) ∨
        ∃ cited, parseTokens schema opened = .error (.unfinished cited))) ∧
    parseTokens schema opened = .error (.unfinished "(") ∧
    ∃ t, opened.getLast? = some t ∧ "(" = t.display := by
  intro schema opened closed more
  have closedRead : Expression.read schema closed =
      .error (.invalidOperation ⟨.opening, 9⟩ (.emptyList .notIn)) := by decide +kernel
  have openedRead : Expression.read schema opened = .error (.unfinished (some ⟨.opening, 9⟩)) := by
    decide +kernel
  have listRead : Expression.read schema (opened ++ more) =
      .ok (some ⟨⟨.field "n" (.int .u8), ⟨.notIn, .set ⟨[.int .u8 7 (by decide)]⟩⟩⟩, []⟩) := by
    decide +kernel
  have wrong : parseTokens schema closed =
      .error (.invalidOperation "(" (.emptyList .notIn)) := by rw [parseTokens, closedRead]; rfl
  have unfinished : parseTokens schema opened = .error (.unfinished "(") := by
    rw [parseTokens, openedRead]; rfl
  obtain ⟨c, accepted⟩ : ∃ c, parseTokens schema (opened ++ more) = .ok c :=
    ⟨_, by rw [parseTokens, listRead]⟩
  obtain ⟨settled, -, -⟩ := parseTokens_append schema closed more
  obtain ⟨-, front, cites⟩ := parseTokens_append schema opened more
  exact ⟨⟨wrong, settled _ wrong (.inl rfl)⟩, ⟨c, accepted, front c accepted⟩, unfinished,
    cites _ unfinished⟩

end RecordFilter
