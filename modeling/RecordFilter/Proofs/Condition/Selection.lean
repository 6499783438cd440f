import RecordFilter.Condition.Selection
import RecordFilter.Proofs.Condition.DeMorgan

/-!
# Selecting from collections

All operations on a list of records go through it in order, but they stop at different places.
Filtering and counting need every record, so they fail with the first error wherever it is. A
search is over at the first record that the condition holds of, so an error counts only before
it. Whether some or every record is meant is a row of outcomes that is cut short in one of two
ways, and by the negation of the condition the one becomes the other.

## Main definitions

* `Condition.verdict`: the outcome of a condition on an item
* `CutAt`: a list up to the first item of which something may be otherwise
* `Condition.Search`: the first item that the condition holds of, or the error before it

## Main results

* `Condition.filter_append`: filtering goes on behind items that it has passed
* `Condition.filter_eq_ok_iff`, `Condition.filter_eq_error_iff`: what filtering returns
* `Condition.Search.position_eq`: positions are those of a search
* `Condition.opposite_allMatch`: every item and the negation on some item
* `Condition.selections_agree`: all operations on one list
-/

namespace RecordFilter

/-! ### Cutting lists -/

section

variable {α : Type} {passes : α → Prop} {items before : List α} {x : α}

/-- The list is cut in front of an item, and all items before it pass. -/
def CutAt (passes : α → Prop) (items before : List α) (x : α) : Prop :=
  (∀ y ∈ before, passes y) ∧ ∃ after, items = before ++ x :: after

/-- A list is cut at the first item that does not pass. -/
theorem forall_or_exists_cutAt (passes : α → Prop) (items : List α) :
    (∀ x ∈ items, passes x) ∨ ∃ before x, CutAt passes items before x ∧ ¬ passes x := by
  induction items with
  | nil => exact .inl (by simp)
  | cons y rest ih =>
    by_cases first : passes y
    · rcases ih with all | ⟨before, x, ⟨passed, after, rfl⟩, stops⟩
      · exact .inl (List.forall_mem_cons.mpr ⟨first, all⟩)
      · exact .inr ⟨y :: before, x, ⟨List.forall_mem_cons.mpr ⟨first, passed⟩, after, rfl⟩, stops⟩
    · exact .inr ⟨[], y, ⟨by simp, rest, rfl⟩, first⟩

end

namespace Condition

section

variable [Pattern.Engine] {α : Type} [ToRecord α] {c : Condition} {items before : List α} {x : α}

/-- The outcome of the condition on an item. -/
def verdict (c : Condition) (x : α) : Except EvalError Bool := c.holds (ToRecord.toRecord x)

/-- The condition has a truth value on the item. -/
def Decides (c : Condition) (x : α) : Prop := ∃ b, c.verdict x = .ok b

theorem not_decides_iff : ¬ c.Decides x ↔ ∃ e, c.verdict x = .error e := by
  unfold Decides
  cases c.verdict x <;> simp

/-! ### Filtering and counting -/

/-- One step of filtering. -/
theorem filter_cons (c : Condition) (x : α) (rest : List α) :
    c.filter (x :: rest) =
      match c.verdict x with
      | .error e => .error e
      | .ok hit => (c.filter rest).map fun kept => if hit then x :: kept else kept := by
  rw [filter, verdict]
  cases c.holds (ToRecord.toRecord x) with
  | error e => rfl
  | ok hit => cases c.filter rest <;> rfl

/-- One step of counting. -/
theorem count_cons (c : Condition) (x : α) (rest : List α) :
    c.count (x :: rest) =
      match c.verdict x with
      | .error e => .error e
      | .ok hit => (c.count rest).map fun number => if hit then number + 1 else number := by
  rw [count, verdict]
  cases c.holds (ToRecord.toRecord x) with
  | error e => rfl
  | ok hit => cases c.count rest <;> rfl

/-- Counting is filtering without keeping what is found. -/
theorem count_eq_length_filter (c : Condition) (items : List α) :
    c.count items = (c.filter items).map List.length := by
  induction items with
  | nil => rfl
  | cons x rest ih =>
    rw [count_cons, filter_cons, ih]
    cases c.verdict x with
    | error e => rfl
    | ok hit => cases c.filter rest <;> cases hit <;> rfl

/-- Filtering goes on behind items on which the condition has a truth value, and keeps of them
those of which it holds. -/
theorem filter_append (decided : ∀ x ∈ before, c.Decides x) (rest : List α) :
    c.filter (before ++ rest) =
      (c.filter rest).map (before.filter (c.verdict · = .ok true) ++ ·) := by
  induction before with
  | nil => cases found : c.filter rest <;> simp [found, Except.map]
  | cons x later ih =>
    obtain ⟨⟨hit, first⟩, decidedLater⟩ := List.forall_mem_cons.mp decided
    -- of all items passed so far, the head is kept in front
    rw [List.cons_append, filter_cons, first, ih decidedLater]
    cases c.filter rest with
    | error e => rfl
    | ok kept => cases hit <;> simp [first, Except.map]

theorem filter_eq_ok_of_decides (decided : ∀ x ∈ items, c.Decides x) :
    c.filter items = .ok (items.filter (c.verdict · = .ok true)) := by
  have whole := filter_append decided []
  rw [List.append_nil, filter] at whole
  simpa [Except.map] using whole

theorem filter_eq_error_of_cutAt {e : EvalError} (cut : CutAt c.Decides items before x)
    (failed : c.verdict x = .error e) : c.filter items = .error e := by
  obtain ⟨decided, after, rfl⟩ := cut
  rw [filter_append decided, filter_cons, failed]
  rfl

/-- Filtering succeeds exactly if the condition has a truth value on every item. -/
theorem filter_eq_ok_iff {kept : List α} :
    c.filter items = .ok kept ↔
      (∀ x ∈ items, c.Decides x) ∧ kept = items.filter (c.verdict · = .ok true) := by
  constructor
  · intro found
    rcases forall_or_exists_cutAt c.Decides items with decided | ⟨before, x, cut, stops⟩
    · rw [filter_eq_ok_of_decides decided] at found
      exact ⟨decided, (Except.ok.inj found).symm⟩
    · obtain ⟨e, failed⟩ := not_decides_iff.mp stops
      rw [filter_eq_error_of_cutAt cut failed] at found
      cases found
  · rintro ⟨decided, rfl⟩
    exact filter_eq_ok_of_decides decided

/-- Filtering fails exactly with the error on the first item that has one. -/
theorem filter_eq_error_iff {e : EvalError} :
    c.filter items = .error e ↔
      ∃ before x, CutAt c.Decides items before x ∧ c.verdict x = .error e := by
  constructor
  · intro failed
    rcases forall_or_exists_cutAt c.Decides items with decided | ⟨before, x, cut, stops⟩
    · rw [filter_eq_ok_of_decides decided] at failed
      cases failed
    · obtain ⟨f, failedThere⟩ := not_decides_iff.mp stops
      rw [filter_eq_error_of_cutAt cut failedThere] at failed
      rw [← Except.error.inj failed]
      exact ⟨before, x, cut, failedThere⟩
  · rintro ⟨before, x, cut, failed⟩
    exact filter_eq_error_of_cutAt cut failed

/-! ### Searching -/

/-- The outcome of a search: the first item that the condition holds of and its place, or the
error on an item before it, where the condition does not hold of anything before that. -/
inductive Search (c : Condition) (items : List α) : Except EvalError (Option (Nat × α)) → Prop
  | missed (all : ∀ x ∈ items, c.verdict x = .ok false) : Search c items (.ok none)
  | found {before : List α} {x : α} (cut : CutAt (c.verdict · = .ok false) items before x)
      (hit : c.verdict x = .ok true) : Search c items (.ok (some (before.length, x)))
  | failed {before : List α} {x : α} {e : EvalError}
      (cut : CutAt (c.verdict · = .ok false) items before x)
      (failed : c.verdict x = .error e) : Search c items (.error e)

/-- Every search has an outcome. -/
theorem exists_search (c : Condition) (items : List α) : ∃ outcome, c.Search items outcome := by
  rcases forall_or_exists_cutAt (c.verdict · = .ok false) items with all | ⟨before, x, cut, stops⟩
  · exact ⟨_, .missed all⟩
  · cases last : c.verdict x with
    | error e => exact ⟨_, .failed cut last⟩
    | ok hit =>
      cases hit with
      | true => exact ⟨_, .found cut last⟩
      | false => exact absurd last stops

/-- One step of a search. -/
theorem position_cons (c : Condition) (x : α) (rest : List α) :
    c.position (x :: rest) =
      match c.verdict x with
      | .error e => .error e
      | .ok true => .ok (some 0)
      | .ok false => (c.position rest).map (Option.map (· + 1)) := by
  rw [position, verdict]
  rcases c.holds (ToRecord.toRecord x) with e | _ | _
  · rfl
  · cases c.position rest <;> rfl
  · rfl

/-- A search goes on behind items that the condition does not hold of. -/
theorem position_append (missed : ∀ x ∈ before, c.verdict x = .ok false) (rest : List α) :
    c.position (before ++ rest) = (c.position rest).map (Option.map (· + before.length)) := by
  induction before with
  | nil => rcases found : c.position rest with e | _ | _ <;> simp [found, Except.map]
  | cons x later ih =>
    obtain ⟨first, missedLater⟩ := List.forall_mem_cons.mp missed
    rw [List.cons_append, position_cons, first, ih missedLater]
    rcases c.position rest with e | _ | _ <;> simp [Except.map, Nat.add_assoc]

/-- The position is the place that a search finds. -/
theorem Search.position_eq {outcome : Except EvalError (Option (Nat × α))}
    (search : c.Search items outcome) :
    c.position items = outcome.map (Option.map Prod.fst) := by
  cases search with
  | missed all =>
    have whole := position_append all []
    rw [List.append_nil, position] at whole
    exact whole
  | found cut hit =>
    obtain ⟨missed, after, rfl⟩ := cut
    rw [position_append missed, position_cons, hit]
    simp [Except.map]
  | failed cut failed =>
    obtain ⟨missed, after, rfl⟩ := cut
    rw [position_append missed, position_cons, failed]
    rfl

/-- The record that is returned stands at the place that a search finds. -/
theorem Search.find_eq {outcome : Except EvalError (Option (Nat × α))}
    (search : c.Search items outcome) : c.find items = outcome.map (Option.map Prod.snd) := by
  rw [find, search.position_eq]
  cases search with
  | missed | failed => rfl
  | found cut hit =>
    obtain ⟨-, after, rfl⟩ := cut
    simp [Except.map]

theorem Search.anyMatch_eq {outcome : Except EvalError (Option (Nat × α))}
    (search : c.Search items outcome) : c.anyMatch items = outcome.map Option.isSome := by
  rw [anyMatch, search.position_eq]
  cases search <;> rfl

/-! ### Some and every -/

theorem anyMatch_eq_shortCircuit (c : Condition) (items : List α) :
    c.anyMatch items = shortCircuit false (items.map c.verdict) := by
  induction items with
  | nil => rfl
  | cons x rest ih =>
    rw [List.map_cons, shortCircuit_cons, ← ih, anyMatch, position_cons, anyMatch]
    rcases c.verdict x with e | _ | _
    · rfl
    · rcases c.position rest with e | _ | _ <;> rfl
    · rfl

theorem allMatch_eq_shortCircuit (c : Condition) (items : List α) :
    c.allMatch items = shortCircuit true (items.map c.verdict) := by
  induction items with
  | nil => rfl
  | cons x rest ih =>
    rw [List.map_cons, shortCircuit_cons, ← ih, allMatch, verdict]
    rcases c.holds (ToRecord.toRecord x) with e | _ | _ <;> rfl

theorem Canonical.opposite_verdict (canonical : c.Canonical) (x : α) :
    Opposite (c.verdict x) (c.negate.verdict x) :=
  canonical.opposite_negate (ToRecord.toRecord x) none

/-- The condition holds of every item exactly if its negation holds of none, and both stop at
the same item. -/
theorem opposite_allMatch (canonical : c.Canonical) (items : List α) :
    Opposite (c.allMatch items) (c.negate.anyMatch items) := by
  -- where one row goes on after `true`, the other goes on after `false`
  rw [allMatch_eq_shortCircuit, anyMatch_eq_shortCircuit]
  apply Opposite.shortCircuit
  rw [List.forall₂_map_left_iff, List.forall₂_map_right_iff, List.forall₂_same]
  exact fun x _ => canonical.opposite_verdict x

/-! ### All operations -/

theorem negate_verdict_eq_ok (canonical : c.Canonical) {hit : Bool}
    (decided : c.verdict x = .ok hit) : c.negate.verdict x = .ok !hit := by
  have opposite := canonical.opposite_verdict x
  rw [decided] at opposite
  exact opposite.eq_ok

/-- Where filtering succeeds, filtering by the negation returns what is left. -/
theorem filter_negate (canonical : c.Canonical) (decided : ∀ x ∈ items, c.Decides x) :
    c.negate.filter items = .ok (items.filter (c.verdict · ≠ .ok true)) := by
  refine filter_eq_ok_iff.mpr ⟨fun x member => ?_, List.filter_congr fun x member => ?_⟩
  · obtain ⟨hit, outcome⟩ := decided x member
    exact ⟨!hit, negate_verdict_eq_ok canonical outcome⟩
  · obtain ⟨hit, outcome⟩ := decided x member
    rw [outcome, negate_verdict_eq_ok canonical outcome]
    cases hit <;> rfl

/-- The operations on one list agree with each other. Filtering returns the items that the
condition holds of, in order, or the first error there is, and counting returns their number or
that error. The searches return the first item that the condition holds of, or the error that
comes before it. That every item is meant is the opposite of some item being meant by the
negation, and filtering by the negation returns the items that filtering has left. -/
theorem selections_agree (built : c.Built) (items : List α) :
    (∀ kept, c.filter items = .ok kept ↔
      (∀ x ∈ items, ∃ b, c.verdict x = .ok b) ∧ kept = items.filter (c.verdict · = .ok true)) ∧
    (∀ e, c.filter items = .error e ↔
      ∃ before x, CutAt (fun y => ∃ b, c.verdict y = .ok b) items before x ∧
        c.verdict x = .error e) ∧
    c.count items = (c.filter items).map List.length ∧
    ((∃ outcome, c.Search items outcome) ∧
      ∀ outcome, c.Search items outcome →
        c.position items = outcome.map (Option.map Prod.fst) ∧
        c.find items = outcome.map (Option.map Prod.snd) ∧
        c.anyMatch items = outcome.map Option.isSome) ∧
    Opposite (c.allMatch items) (c.negate.anyMatch items) ∧
    ∀ kept, c.filter items = .ok kept →
      c.negate.filter items = .ok (items.filter (c.verdict · ≠ .ok true)) := by
  have canonical := built.canonical
  refine ⟨fun kept => filter_eq_ok_iff, fun e => filter_eq_error_iff,
    count_eq_length_filter c items, ⟨exists_search c items, fun outcome search => ?_⟩,
    opposite_allMatch canonical items, fun kept found => ?_⟩
  · exact ⟨search.position_eq, search.find_eq, search.anyMatch_eq⟩
  · exact filter_negate canonical (filter_eq_ok_iff.mp found).1

end

/-- The text in the middle has no order to the number, which is noticed only by operations that
get there. -/
theorem selections_agree_of_mismatch :
    ∃ (c : Condition) (one text nine : Value) (e f : EvalError), c.Built ∧
      c.filter [one, text, nine] = .error e ∧ c.count [one, text, nine] = .error e ∧
      c.position [one, text, nine] = .ok (some 0) ∧ c.find [one, text, nine] = .ok (some one) ∧
      c.anyMatch [one, text, nine] = .ok true ∧ c.filter [one, nine] = .ok [one] ∧
      c.negate.filter [one, nine] = .ok [nine] ∧ e ≠ f ∧
      Opposite (c.allMatch [one, text, nine]) (c.negate.anyMatch [one, text, nine]) ∧
      c.allMatch [one, text, nine] = .error e ∧ c.negate.anyMatch [one, text, nine] = .error f := by
  let one : Value := .int .i64 1 (by decide)
  let text : Value := .text "x"
  let nine : Value := .int .i64 9 (by decide)
  let c := lt (.value (.int .i64 5 (by decide)))
  let items := [one, text, nine]
  have built : c.Built := .scalar rfl _
  have low : c.verdict one = .ok true := rfl
  have high : c.verdict nine = .ok false := rfl
  have failed : c.verdict text = .error (.kindMismatch .lt (.int .i64) .text) := rfl
  obtain ⟨-, stops, counted, ⟨-, searched⟩, opposite, -⟩ := selections_agree built items
  obtain ⟨found, -, -, -, -, rest⟩ := selections_agree built [one, nine]
  have atText : CutAt (fun y => ∃ b, c.verdict y = .ok b) items [one] text :=
    ⟨List.forall_mem_singleton.mpr ⟨true, low⟩, [nine], rfl⟩
  have filtered := (stops _).mpr ⟨[one], text, atText, failed⟩
  have decided : ∀ y ∈ [one, nine], ∃ b, c.verdict y = .ok b :=
    List.forall_mem_cons.mpr ⟨⟨true, low⟩, List.forall_mem_singleton.mpr ⟨false, high⟩⟩
  have kept : c.filter [one, nine] = .ok [one] := (found _).mpr ⟨decided, rfl⟩
  have first : CutAt (c.verdict · = .ok false) items [] one := ⟨by simp, [text, nine], rfl⟩
  obtain ⟨place, item, some⟩ := searched _ (.found first low)
  rw [filtered] at counted
  exact ⟨c, one, text, nine, _, .kindMismatch .ge (.int .i64) .text, built, filtered, counted,
    place, item, some, kept, rest _ kept, by decide, opposite, rfl, rfl⟩

end Condition

end RecordFilter
