import RecordFilter.Proofs.Condition.Mentions
import RecordFilter.Proofs.Condition.ShortCircuit
import RecordFilter.Sample.Task

/-!
# What an evaluation reads

An evaluation asks a record for its scalar and for the fields that the condition mentions.
Records of whatever type that answer these alike have the same outcome, errors included,
however much they differ elsewhere.

Below a field, the value of the field takes the place of the record and the record becomes its
surroundings, where references are looked up. So records and their surroundings are compared
together.

## Main definitions

* `Record.AgreeOn`: records that answer alike

## Main results

* `Condition.eval_congr`: an evaluation reads nothing but what is mentioned
* `Condition.holds_eq_of_agreeOn`: the same for records of any types, and for parsed conditions
-/

namespace RecordFilter

/-! ### Records that agree -/

/-- The records are the same scalar, or none, and answer the given names alike. -/
structure Record.AgreeOn (names : String → Prop) (r s : Record) : Prop where
  scalar : r.scalar = s.scalar
  field : ∀ name, names name → r.field name = s.field name

variable {names : String → Prop} {r s : Record} {outer other : Option Record}

theorem Record.agreeOn_refl (names : String → Prop) (r : Record) : r.AgreeOn names r :=
  ⟨rfl, fun _ _ => rfl⟩

/-- References have the same values in surroundings that agree. -/
theorem resolve_congr (around : Option.Rel (Record.AgreeOn names) outer other) {name : String}
    (named : names name) : resolve outer name = resolve other name := by
  cases around with
  | none => rfl
  | some agree =>
    simp only [resolve]
    rw [agree.field name named]

section

variable [Pattern.Engine]

theorem Comparison.eval_congr {leaf : Comparison} (sameScalar : r.scalar = s.scalar)
    (resolved : ∀ name, leaf.operand = .reference name →
      resolve outer name = resolve other name) :
    leaf.eval r outer = leaf.eval s other := by
  obtain ⟨op, operand⟩ := leaf
  unfold eval
  rw [sameScalar]
  cases operand with
  | value | set | pattern => rfl
  | reference name =>
    dsimp only
    rw [resolved name rfl]

namespace Condition

/-- Records that agree on the names that a condition mentions, in surroundings that do so, too,
have the same outcome. -/
theorem eval_congr {c : Condition} (mentioned : ∀ name, c.Mentions name → names name)
    (agree : r.AgreeOn names s) (around : Option.Rel (Record.AgreeOn names) outer other) :
    c.eval r outer = c.eval s other := by
  -- below a field the records become the surroundings, so both have to vary
  induction c using node_induction generalizing r s outer other with
  | always | never | failure => simp only [eval]
  | comparison leaf =>
    simp only [eval]
    exact Comparison.eval_congr agree.scalar fun name refers =>
      resolve_congr around (mentioned name (mentions_comparison_iff.mpr refers))
  | node connective terms ih =>
    rw [eval_node, eval_node]
    congr 1
    apply List.map_congr_left
    intro t member
    have below (name : String) (inTerm : t.Mentions name) : names name :=
      mentioned name (mentions_node_iff.mpr ⟨t, member, inTerm⟩)
    exact ih t member below agree around
  | invert inner ih =>
    have below (name : String) (inside : inner.Mentions name) : names name :=
      mentioned name (mentions_invert_iff.mpr inside)
    simp only [eval]
    rw [ih below agree around]
  | fields constraints ih =>
    rw [eval_fields, eval_fields]
    congr 1
    apply List.map_congr_left
    intro f member
    have asked : r.field f.1 = s.field f.1 :=
      agree.field f.1 (mentioned f.1 (mentions_fields_iff.mpr ⟨f, member, .inl rfl⟩))
    have below (name : String) (inConstraint : f.2.Mentions name) : names name :=
      mentioned name (mentions_fields_iff.mpr ⟨f, member, .inr inConstraint⟩)
    unfold constraintOutcome
    rw [asked]
    cases s.field f.1 with
    | none => rfl
    | some v => exact ih f member below (Record.agreeOn_refl names _) (.some agree)

end Condition

end

namespace Condition

/-! ### Records of any types -/

/-- Records of any types that are the same scalar, or none, and answer the fields alike that a
condition mentions, have the same outcome, whatever else they hold. A parsed condition
mentions only fields that its text names, all of them from the schema, so records that answer
these alike have the same outcome. -/
theorem holds_eq_of_agreeOn [Pattern.Engine] (c : Condition) :
    (∀ {α β : Type} [ToRecord α] [ToRecord β] (x : α) (y : β),
      (ToRecord.toRecord x).AgreeOn c.Mentions (ToRecord.toRecord y) →
        c.holds (ToRecord.toRecord x) = c.holds (ToRecord.toRecord y)) ∧
    ∀ (schema : Schema) (text : String), parse schema text = .ok c →
      (∀ name, c.Mentions name → NamesField schema text name) ∧
      (∀ name, NamesField schema text name → schema.contains name = true ∧
        ∃ tokens, tokenize text = .ok tokens ∧ .word name ∈ tokens.map Token.lexeme) ∧
      ∀ {α β : Type} [ToRecord α] [ToRecord β] (x : α) (y : β),
        (ToRecord.toRecord x).AgreeOn (NamesField schema text) (ToRecord.toRecord y) →
          c.holds (ToRecord.toRecord x) = c.holds (ToRecord.toRecord y) := by
  constructor
  · intro α β _ _ x y agree
    exact eval_congr (fun name mentioned => mentioned) agree .none
  · intro schema text parsed
    have named (name : String) (mentioned : c.Mentions name) : NamesField schema text name :=
      Mentions.of_parse parsed mentioned
    refine ⟨named, fun name => NamesField.contains_and_word, ?_⟩
    intro α β _ _ x y agree
    exact eval_congr named agree .none

/-- A task and a table agree on two fields, and the table lacks the others. The first condition
refers from a text to a number, so it fails on both. -/
theorem holds_eq_of_agreeOn_task :
    ∃ (task : Task) (table : Record) (direct parsed : Condition),
      (ToRecord.toRecord task).field "estimate" ≠ table.field "estimate" ∧
      (ToRecord.toRecord task).AgreeOn direct.Mentions table ∧
      direct.holds (ToRecord.toRecord task) = direct.holds table ∧
      direct.holds table = .error (.kindMismatch .lt (.int .u8) .text) ∧
      parse Task.schema "priority > 3 OR name MATCH \"x\"" = .ok parsed ∧
      (ToRecord.toRecord task).AgreeOn
        (NamesField Task.schema "priority > 3 OR name MATCH \"x\"") table ∧
      parsed.holds (ToRecord.toRecord task) = parsed.holds table ∧
      parsed.holds table = .ok true := by
  let seven : FixedInt .u8 := ⟨7, by decide⟩
  let task : Task := ⟨"a", seven, true, ⟨30, by decide⟩⟩
  let table := Record.ofFields [("name", .text "a"), ("priority", Scalar.toValue seven)]
  let direct := onField "name" (lt (.reference "priority"))
  obtain ⟨s, said, same⟩ := Sentence.exists_ofText_of_read Task.schema
    "priority > 3 OR name MATCH \"x\""
    ⟨⟨.field "priority" (.int .u8), ⟨.gt, .value (.int .u8 3 (by decide))⟩⟩,
      [(.or, ⟨.field "name" .text, ⟨.isMatch, .pattern ⟨"x"⟩⟩⟩)]⟩ (by decide +kernel)
  have parsed := parse_eq_ok_iff_ofText.mpr (.inr ⟨s, said, rfl⟩)
  have mentioned : (ToRecord.toRecord task).AgreeOn direct.Mentions table := by
    refine ⟨rfl, fun name mentions => ?_⟩
    have either : "name" = name ∨ "priority" = name := by
      simpa [direct, onField, lt, scalar, ScalarOperand.toOperand] using mentions
    rcases either with rfl | rfl <;> rfl
  have named : (ToRecord.toRecord task).AgreeOn
      (NamesField Task.schema "priority > 3 OR name MATCH \"x\"") table := by
    refine ⟨rfl, fun name names => ?_⟩
    obtain ⟨other, otherSaid, clause, member, about⟩ := names
    rw [other.clauses_eq, otherSaid.toExpression_unique said, same] at member
    simp only [List.map_cons, List.map_nil, List.mem_cons, List.not_mem_nil, or_false] at member
    rcases member with rfl | rfl <;> cases about <;> rfl
  obtain ⟨general, -⟩ := holds_eq_of_agreeOn direct
  obtain ⟨-, ofText⟩ := holds_eq_of_agreeOn s.toExpression.toCondition
  obtain ⟨-, -, onNamed⟩ := ofText Task.schema _ parsed
  refine ⟨task, table, direct, _, ?_, mentioned, general task table mentioned, ?_, parsed, named,
    onNamed task table named, ?_⟩
  · decide +kernel
  · decide +kernel
  · rw [same]
    decide +kernel

end Condition

end RecordFilter
