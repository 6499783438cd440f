import RecordFilter.Proofs.Condition.Selection

/-!
# Filters in a row

Filtering by one condition and what is left by another one takes two passes, and the second does
not see the items that the first has dropped. One pass with the conjunction of both returns the
same, because the conjunction passes over the second condition on just those items. Only the
error may be another one where both ways fail: one pass reports the item that comes first, two
passes the condition that comes first.

A disjunction has no such order. It may leave out the second condition on an item that is kept
anyway, so its items are those of the two filters together only where nothing fails.

## Main results

* `Condition.verdict_all`, `Condition.verdict_any`: the outcome of a pair on one item
* `Condition.filter_all_eq_ok_iff`: one pass and two passes
* `Condition.filter_any`: the items of one filter or the other
* `Condition.filters_fuse`: both connectives together
-/

namespace RecordFilter.Condition

section

variable [Pattern.Engine] {α : Type} [ToRecord α] {a b : Condition} {items kept : List α} {x : α} {p q : Bool}

/-! ### One item -/

/-- On one item, a conjunction asks its second operand only where the first one holds. -/
theorem verdict_all (notNever : b ≠ never) (x : α) :
    (all [a, b]).verdict x =
      match a.verdict x with
      | .error e => .error e
      | .ok false => .ok false
      | .ok true => b.verdict x := by
  by_cases absorbed : a = never
  · subst absorbed
    rw [all_eq_never_of_mem List.mem_cons_self]
    rfl
  · have noNever : never ∉ [a, b] := by
      simp only [List.mem_cons, List.not_mem_nil, or_false, not_or]
      exact ⟨Ne.symm absorbed, Ne.symm notNever⟩
    unfold verdict holds
    rw [eval_all_eq_shortCircuit noNever, List.map_cons, List.map_singleton, shortCircuit_cons,
      shortCircuit_singleton]
    rcases a.eval (ToRecord.toRecord x) none with e | _ | _ <;> rfl

/-- On an item on which both operands have a truth value, so has their disjunction. -/
theorem verdict_any (first : a.verdict x = .ok p) (second : b.verdict x = .ok q) :
    (any [a, b]).verdict x = .ok (p || q) := by
  by_cases absorbed : always ∈ [a, b]
  · have holds : p = true ∨ q = true := by
      simp only [List.mem_cons, List.not_mem_nil, or_false] at absorbed
      rcases absorbed with rfl | rfl
      · exact .inl (Except.ok.inj first).symm
      · exact .inr (Except.ok.inj second).symm
    rw [any_eq_always_of_mem absorbed, Bool.or_eq_true_iff.mpr holds]
    rfl
  · unfold verdict holds at *
    rw [eval_any_eq_shortCircuit absorbed, List.map_cons, List.map_singleton, shortCircuit_cons,
      shortCircuit_singleton, first, second]
    cases p <;> rfl

/-- A conjunction has a truth value exactly where its first operand has one and, unless that one
settles it, also the second. -/
theorem decides_all_iff (notNever : b ≠ never) :
    (all [a, b]).Decides x ↔ a.Decides x ∧ (a.verdict x = .ok true → b.Decides x) := by
  unfold Decides
  rw [verdict_all notNever]
  rcases a.verdict x with e | _ | _ <;> simp

theorem verdict_all_eq_ok_true_iff (notNever : b ≠ never) :
    (all [a, b]).verdict x = .ok true ↔ a.verdict x = .ok true ∧ b.verdict x = .ok true := by
  rw [verdict_all notNever]
  rcases a.verdict x with e | _ | _ <;> simp

/-! ### All items -/

/-- The items of a conjunction are those of the second condition among those of the first. -/
theorem filter_verdict_all (notNever : b ≠ never) (items : List α) :
    items.filter ((all [a, b]).verdict · = .ok true) =
      (items.filter (a.verdict · = .ok true)).filter (b.verdict · = .ok true) := by
  rw [List.filter_filter]
  apply List.filter_congr
  intro x _
  simp [verdict_all_eq_ok_true_iff notNever, Bool.and_comm]

/-- One pass with a conjunction returns what two passes return, where one of them succeeds. -/
theorem filter_all_eq_ok_iff (notNever : b ≠ never) :
    (all [a, b]).filter items = .ok kept ↔
      ∃ passed, a.filter items = .ok passed ∧ b.filter passed = .ok kept := by
  constructor
  · intro found
    obtain ⟨decided, rfl⟩ := filter_eq_ok_iff.mp found
    have stages : ∀ x ∈ items, a.Decides x ∧ (a.verdict x = .ok true → b.Decides x) :=
      fun x member => (decides_all_iff notNever).mp (decided x member)
    refine ⟨_, filter_eq_ok_iff.mpr ⟨fun x member => (stages x member).1, rfl⟩,
      filter_eq_ok_iff.mpr ⟨fun x member => ?_, filter_verdict_all notNever items⟩⟩
    obtain ⟨among, passes⟩ := List.mem_filter.mp member
    exact (stages x among).2 (of_decide_eq_true passes)
  · rintro ⟨passed, first, second⟩
    obtain ⟨decidedFirst, rfl⟩ := filter_eq_ok_iff.mp first
    obtain ⟨decidedSecond, rfl⟩ := filter_eq_ok_iff.mp second
    refine filter_eq_ok_iff.mpr ⟨fun x member => ?_, (filter_verdict_all notNever items).symm⟩
    refine (decides_all_iff notNever).mpr ⟨decidedFirst x member, fun passes => ?_⟩
    exact decidedSecond x (List.mem_filter.mpr ⟨member, decide_eq_true passes⟩)

/-- Where nothing fails, one pass with a disjunction keeps the items that the one condition or the
other one keeps. -/
theorem filter_any (decided : ∀ x ∈ items, a.Decides x ∧ b.Decides x) :
    (any [a, b]).filter items =
      .ok (items.filter fun x => a.verdict x = .ok true ∨ b.verdict x = .ok true) := by
  refine filter_eq_ok_iff.mpr ⟨fun x member => ?_, List.filter_congr fun x member => ?_⟩
  · obtain ⟨⟨p, first⟩, ⟨q, second⟩⟩ := decided x member
    exact ⟨p || q, verdict_any first second⟩
  · obtain ⟨⟨p, first⟩, ⟨q, second⟩⟩ := decided x member
    rw [verdict_any first second, first, second]
    cases p <;> cases q <;> rfl

/-- Filters fuse. Filtering by the conjunction of two conditions, of which the second is not the
constant that never holds, succeeds exactly if filtering by the first and then filtering the
result by the second succeeds, with the same items in the same order. Where both conditions have
a truth value on every item, filtering by their disjunction keeps exactly the items that one of
the two filters keeps, in their order in the list. -/
theorem filters_fuse (a b : Condition) (items : List α) :
    (b ≠ never → ∀ kept, (all [a, b]).filter items = .ok kept ↔
      (a.filter items).bind b.filter = .ok kept) ∧
    ((∀ x ∈ items, (∃ p, a.verdict x = .ok p) ∧ ∃ q, b.verdict x = .ok q) →
      ∃ byFirst bySecond kept, a.filter items = .ok byFirst ∧ b.filter items = .ok bySecond ∧
        (any [a, b]).filter items = .ok kept ∧
        kept = items.filter (fun x => a.verdict x = .ok true ∨ b.verdict x = .ok true) ∧
        ∀ x, x ∈ kept ↔ x ∈ byFirst ∨ x ∈ bySecond) := by
  refine ⟨fun notNever kept => ?_, fun decided => ?_⟩
  · rw [filter_all_eq_ok_iff notNever]
    cases a.filter items <;> simp [Except.bind]
  · refine ⟨_, _, _, filter_eq_ok_of_decides fun x member => (decided x member).1,
      filter_eq_ok_of_decides fun x member => (decided x member).2, filter_any decided, rfl,
      fun x => ?_⟩
    simp only [List.mem_filter, decide_eq_true_eq, ← and_or_left]

end

/-- Only the first condition keeps the second one from a text that it cannot compare with a
number. Without texts, low and high numbers are found in their order. -/
theorem filters_fuse_of_text_among_numbers :
    ∃ (a b c : Condition) (one five nine text : Value) (e : EvalError),
      a.Built ∧ b.Built ∧ c.Built ∧ b ≠ never ∧ b.filter [one, text, nine] = .error e ∧
      (all [a, b]).filter [one, text, nine] = .ok [one] ∧
      (a.filter [one, text, nine]).bind b.filter = .ok [one] ∧
      (∀ x ∈ [nine, five, one], (∃ p, b.verdict x = .ok p) ∧ ∃ q, c.verdict x = .ok q) ∧
      b.filter [nine, five, one] = .ok [one] ∧ c.filter [nine, five, one] = .ok [nine] ∧
      (any [b, c]).filter [nine, five, one] = .ok [nine, one] := by
  let one : Value := .int .i64 1 (by decide)
  let five : Value := .int .i64 5 (by decide)
  let nine : Value := .int .i64 9 (by decide)
  let text : Value := .text "x"
  let a := ne (.value text)
  let b := lt (.value five)
  let c := gt (.value five)
  have notNever : b ≠ never := by simp [b, lt, scalar]
  have decided : ∀ x ∈ [nine, five, one], (∃ p, b.verdict x = .ok p) ∧ ∃ q, c.verdict x = .ok q := by
    simp only [List.forall_mem_cons, List.not_mem_nil, false_implies, implies_true, and_true]
    exact ⟨⟨⟨false, rfl⟩, true, rfl⟩, ⟨⟨false, rfl⟩, false, rfl⟩, ⟨true, rfl⟩, false, rfl⟩
  have twoPasses : (a.filter [one, text, nine]).bind b.filter = .ok [one] := by decide +kernel
  have onePass := ((filters_fuse a b [one, text, nine]).1 notNever [one]).mpr twoPasses
  obtain ⟨byFirst, bySecond, kept, first, second, together, rfl, -⟩ :=
    (filters_fuse b c [nine, five, one]).2 decided
  exact ⟨a, b, c, one, five, nine, text, .kindMismatch .lt (.int .i64) .text, .scalar rfl _,
    .scalar rfl _, .scalar rfl _, notNever, rfl, onePass, twoPasses, decided, rfl, rfl, together⟩

end RecordFilter.Condition
