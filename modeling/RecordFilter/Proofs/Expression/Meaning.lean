import Mathlib.Data.List.Induction
import RecordFilter.Pattern.Basic
import RecordFilter.Proofs.Condition.Combinators
import RecordFilter.Proofs.Expression.Parsing

/-!
# The meaning of an expression

An expression can be evaluated without any tree. The outcome of the first clause is
carried along the row of clauses: an error stays, a connective that is settled passes over
its clause, and otherwise the outcome of the clause takes over. The trees that the
combinators build, flattened and simplified at every clause, have this outcome on every
record.

## Main definitions

* `Clause.outcome`, `Connective.step`, `Expression.outcome`: direct evaluation

## Main results

* `Connective.eval_join`: joining a condition is one step of direct evaluation
* `Expression.holds_toCondition`: the tree of an expression has its outcome
* `Sentence.OfText.holds_eq_outcome`: parsed texts mean what they say
-/

namespace RecordFilter

/-! ### Clauses and steps -/

/-- The condition of a clause is no constant. -/
theorem Clause.toCondition_ne (c : Clause) :
    c.toCondition ≠ .always ∧ c.toCondition ≠ .never := by
  obtain ⟨target, comparison⟩ := c
  cases target <;> simp [toCondition, Condition.onField]

/-- One step along a row of clauses: the outcome so far, and the outcome that the next
clause would have. -/
def Connective.step (connective : Connective) (soFar next : Except EvalError Bool) :
    Except EvalError Bool :=
  match connective, soFar with
  | _, .error e => .error e
  | .and, .ok false => .ok false
  | .and, .ok true => next
  | .or, .ok true => .ok true
  | .or, .ok false => next

/-- A step invents no error. -/
theorem Connective.eq_error_of_step {connective : Connective}
    {soFar next : Except EvalError Bool} {e : EvalError}
    (failed : connective.step soFar next = .error e) : soFar = .error e ∨ next = .error e := by
  unfold step at failed
  split at failed
  · exact .inl failed
  · cases failed
  · exact .inr failed
  · cases failed
  · exact .inr failed

section

variable [Pattern.Engine]

/-! ### Direct evaluation -/

/-- The outcome of a clause on a record. The record around the value of a field is the one
that has the field, and the record itself has none around it. -/
def Clause.outcome (c : Clause) (record : Record) : Except EvalError Bool :=
  match c.target with
  | .record => c.comparison.eval record none
  | .field name _ =>
    match record.field name with
    | none => .error (.missingField name)
    | some v => c.comparison.eval (.ofValue v) (some record)

/-- The outcome of a row of clauses, taken from left to right. -/
def Expression.outcome (e : Expression) (record : Record) : Except EvalError Bool :=
  e.rest.foldl (fun soFar item => item.1.step soFar (item.2.outcome record))
    (e.first.outcome record)

/-- The outcome of a sentence, with the connectives that are in force. -/
def Sentence.outcome (s : Sentence) (record : Record) : Except EvalError Bool :=
  s.toExpression.outcome record

/-! ### Trees and direct evaluation -/

theorem Clause.holds_toCondition (c : Clause) (record : Record) :
    c.toCondition.holds record = c.outcome record := by
  obtain ⟨target, comparison⟩ := c
  cases target with
  | record => simp only [toCondition, outcome, Condition.holds, Condition.eval]
  | field name kind =>
    simp only [toCondition, outcome, Condition.holds, Condition.onField, Condition.eval]
    rw [Condition.evalFields]
    cases record.field name with
    | none => rfl
    | some v =>
      simp only [Condition.eval, Condition.evalFields]
      cases comparison.eval (.ofValue v) (some record) with
      | error e => rfl
      | ok hit => cases hit <;> rfl

/-- Joining a condition that is no constant is one step of direct evaluation. The tree on
the left may be a constant: what then absorbs is also what settles the step. -/
theorem Connective.eval_join {connective : Connective} {a b : Condition} {record : Record}
    {scope : Option Record} (notAlways : b ≠ .always) (notNever : b ≠ .never) :
    (connective.join a b).eval record scope =
      connective.step (a.eval record scope) (b.eval record scope) := by
  rw [join_eq_combine]
  by_cases absorbed : a = connective.absorbing
  · rw [combine_eq_absorbing_of_mem (by simp [absorbed]), absorbed]
    cases connective <;> rfl
  · have kept : connective.absorbing ∉ [a, b] := by
      have other : b ≠ connective.absorbing := by cases connective <;> assumption
      simp [Ne.symm absorbed, other.symm]
    rw [eval_combine kept, ← evalRow_singleton connective b]
    cases connective <;> simp only [evalRow, Condition.evalAll, Condition.evalAny, step] <;>
      rcases a.eval record scope with e | _ | _ <;> rfl

/-- The tree of an expression has the outcome of the expression on every record. -/
theorem Expression.holds_toCondition (e : Expression) (record : Record) :
    e.toCondition.holds record = e.outcome record := by
  obtain ⟨first, rest⟩ := e
  rw [toCondition, outcome, ← first.holds_toCondition record]
  generalize first.toCondition = soFar
  induction rest generalizing soFar with
  | nil => rfl
  | cons item rest ih =>
    obtain ⟨connective, clause⟩ := item
    obtain ⟨notAlways, notNever⟩ := clause.toCondition_ne
    rw [List.foldl_cons, List.foldl_cons, ih]
    congr 1
    rw [← clause.holds_toCondition]
    exact Connective.eval_join notAlways notNever

/-! ### Errors -/

/-- An expression fails only with the error of one of its clauses. -/
theorem Expression.exists_clause_of_outcome_eq_error {x : Expression} {record : Record}
    {e : EvalError} (failed : x.outcome record = .error e) :
    ∃ clause ∈ x.first :: x.rest.map Prod.snd, clause.outcome record = .error e := by
  obtain ⟨first, rest⟩ := x
  -- from the right, since the last step decides first
  induction rest using List.reverseRecOn with
  | nil => exact ⟨first, List.mem_cons_self, failed⟩
  | append_singleton rest item ih =>
    rw [outcome, List.foldl_append] at failed
    rcases Connective.eq_error_of_step failed with before | last
    · obtain ⟨clause, member, same⟩ := ih before
      refine ⟨clause, ?_, same⟩
      rw [List.map_append, ← List.cons_append]
      exact List.mem_append_left _ member
    · refine ⟨item.2, ?_, last⟩
      simp

/-! ### Parsed texts -/

/-- A text that says a sentence is parsed, and on every record the tree has the outcome of
the sentence, errors included. -/
theorem Sentence.OfText.holds_eq_outcome {schema : Schema} {text : String} {s : Sentence}
    (said : s.OfText schema text) :
    ∃ c, parse schema text = .ok c ∧ ∀ record, c.holds record = s.outcome record := by
  refine ⟨s.toExpression.toCondition, ?_, ?_⟩
  · exact parse_eq_ok_iff_ofText.mpr (.inr ⟨s, said, rfl⟩)
  · intro record
    exact s.toExpression.holds_toCondition record

end

/-- The second `OR` is a field, and the clause after it has no connective of its own. The
record lacks that field, so the error of its clause is kept up to the end. -/
theorem Sentence.OfText.holds_eq_outcome_of_mixed_connectives :
    ∃ s : Sentence,
      s.OfText (.ofList [("A", .int .i64), ("OR", .bool)])
        "A = 1 OR OR = true A > 0 AND _ != 3" ∧
      ∃ c, parse (.ofList [("A", .int .i64), ("OR", .bool)])
          "A = 1 OR OR = true A > 0 AND _ != 3" = .ok c ∧
        (∀ record, c.holds record = s.outcome record) ∧
        c.holds (.ofFields [("A", .int .i64 2 (by decide))]) = .error (.missingField "OR") := by
  obtain ⟨s, said, same⟩ := Sentence.exists_ofText_of_read
    (.ofList [("A", .int .i64), ("OR", .bool)]) "A = 1 OR OR = true A > 0 AND _ != 3"
    ⟨⟨.field "A" (.int .i64), ⟨.eq, .value (.int .i64 1 (by decide))⟩⟩,
      [(.or, ⟨.field "OR" .bool, ⟨.eq, .value (.bool true)⟩⟩),
        (.or, ⟨.field "A" (.int .i64), ⟨.gt, .value (.int .i64 0 (by decide))⟩⟩),
        (.and, ⟨.record, ⟨.ne, .value (.int .i64 3 (by decide))⟩⟩)]⟩ (by decide +kernel)
  obtain ⟨c, parsed, meaning⟩ := said.holds_eq_outcome
  refine ⟨s, said, c, parsed, meaning, ?_⟩
  rw [meaning, Sentence.outcome, same]
  decide +kernel

end RecordFilter
