import RecordFilter.Proofs.Condition.Combinators
import RecordFilter.Proofs.Expression.Trees

/-!
# Grouping operands

How operands are put into groups leaves no trace in the tree that combinators make of them.
A node knows a row of operands only by its terms: operands of its own sort are spliced, one
constant is dropped, and the other one leaves no terms at all. The terms of two rows in
succession are those of the one and then those of the other, and a canonical condition has
the terms of the row that it is made of. So combinations can be taken apart and put together
again, as in a monoid: one constant is neutral and the other one absorbs.

All of this needs the canonical form. A conjunction of a single conjunction, say, would hide
terms that are spliced when it becomes an operand.

## Main definitions

* `Grouping`: operands in groups, which may hold groups again

## Main results

* `Connective.terms?_combine`: a combination has the terms of its operands
* `Grouping.combine_eq`: only the operands of a grouping count
* `Condition.all_any_append`: conjunction and disjunction as monoids
-/

namespace RecordFilter

namespace Connective

variable {connective : Connective} {c : Condition} {row more : List Condition}

/-! ### Terms -/

/-- A canonical condition is the condition with its own terms. -/
theorem combine_singleton (canonical : c.Canonical) : connective.combine [c] = c := by
  rw [combine_eq_ofTerms]
  rcases connective.operand_cases c with
    ⟨rfl, absorbed⟩ | ⟨rfl, dropped⟩ | ⟨-, kept⟩ | ⟨terms, rfl, spliced⟩
  · rw [absorbed, ofTerms]
  · rw [dropped, ofTerms]
  · rw [kept, ofTerms]
  · rw [spliced, ofTerms_of_two_le_length canonical.of_node.1]

/-- A combination has the terms of its operands. -/
theorem terms?_combine (parts : ∀ c ∈ row, c.Canonical) :
    connective.terms? [connective.combine row] = connective.terms? row := by
  rw [combine_eq_ofTerms]
  -- only with several terms is there a node to splice; a single term stays what it is
  match flattened : connective.terms? row with
  | none => exact terms?_absorbing
  | some [] => exact terms?_unit
  | some [t] => exact terms?_of_isTerm (isTerm_of_mem_terms? parts flattened t List.mem_cons_self).1
  | some (_ :: _ :: _) => exact terms?_node

/-! ### Monoids -/

/-- Two rows can be combined one by one. -/
theorem combine_append (first : ∀ c ∈ row, c.Canonical) (second : ∀ c ∈ more, c.Canonical) :
    connective.combine (row ++ more) =
      connective.combine [connective.combine row, connective.combine more] := by
  rw [combine_eq_ofTerms, combine_eq_ofTerms, terms?_append, terms?_cons, terms?_combine first,
    terms?_combine second]

theorem combine_eq_absorbing_iff (parts : ∀ c ∈ row, c.Canonical) :
    connective.combine row = connective.absorbing ↔ connective.absorbing ∈ row := by
  rw [← terms?_eq_none_iff, ← terms?_combine parts, terms?_eq_none_iff, List.mem_singleton,
    eq_comm]

/-- A canonical condition without terms is the one that is dropped. -/
theorem terms?_eq_some_nil_iff (canonical : c.Canonical) :
    connective.terms? [c] = some [] ↔ c = connective.unit := by
  constructor
  · intro none
    rw [← combine_singleton canonical, combine_eq_ofTerms, none, ofTerms]
  · rintro rfl
    exact terms?_unit

theorem combine_eq_unit_iff (parts : ∀ c ∈ row, c.Canonical) :
    connective.combine row = connective.unit ↔ ∀ c ∈ row, c = connective.unit := by
  rw [← terms?_eq_some_nil_iff (canonical_combine parts), terms?_combine parts]
  induction row with
  | nil => simp [terms?_nil]
  | cons c rest ih =>
    obtain ⟨first, later⟩ := List.forall_mem_cons.mp parts
    rw [List.forall_mem_cons, ← ih later, ← terms?_eq_some_nil_iff first, terms?_cons]
    cases connective.terms? [c] <;> cases connective.terms? rest <;> simp

end Connective

/-! ### Groups -/

/-- Operands in groups, which are operands of a group again. -/
inductive Grouping where
  | operand (c : Condition)
  | group (parts : List Grouping)

namespace Grouping

mutual

/-- The operands in their order. -/
def operands : Grouping → List Condition
  | operand c => [c]
  | group parts => operandsOf parts

/-- The operands of some groups, one after the other. -/
def operandsOf : List Grouping → List Condition
  | [] => []
  | g :: rest => g.operands ++ operandsOf rest

end

mutual

/-- The condition that a connective makes group by group, from the inside out. -/
def combine (connective : Connective) : Grouping → Condition
  | operand c => c
  | group parts => connective.combine (combineEach connective parts)

/-- The conditions that a connective makes of some groups. -/
def combineEach (connective : Connective) : List Grouping → List Condition
  | [] => []
  | g :: rest => g.combine connective :: combineEach connective rest

end

variable {connective : Connective}

mutual

/-- A group has the terms of all operands inside of it. -/
theorem terms?_combine (g : Grouping) (parts : ∀ c ∈ g.operands, c.Canonical) :
    (g.combine connective).Canonical ∧
      connective.terms? [g.combine connective] = connective.terms? g.operands := by
  cases g with
  | operand c =>
    rw [operands] at parts ⊢
    exact ⟨parts c List.mem_cons_self, rfl⟩
  | group members =>
    rw [operands] at parts ⊢
    rw [combine]
    obtain ⟨canonical, same⟩ := terms?_combineEach members parts
    exact ⟨Connective.canonical_combine canonical,
      (Connective.terms?_combine canonical).trans same⟩

/-- So have some groups in a row. -/
theorem terms?_combineEach (groups : List Grouping)
    (parts : ∀ c ∈ operandsOf groups, c.Canonical) :
    (∀ c ∈ combineEach connective groups, c.Canonical) ∧
      connective.terms? (combineEach connective groups) =
        connective.terms? (operandsOf groups) := by
  cases groups with
  | nil => simp [combineEach, operandsOf]
  | cons g rest =>
    rw [operandsOf, List.forall_mem_append] at parts
    obtain ⟨first, sameFirst⟩ := terms?_combine g parts.1
    obtain ⟨later, sameLater⟩ := terms?_combineEach rest parts.2
    rw [combineEach, operandsOf]
    refine ⟨List.forall_mem_cons.mpr ⟨first, later⟩, ?_⟩
    rw [Connective.terms?_cons, Connective.terms?_append, sameFirst, sameLater]

end

/-- Combining operands in groups makes the same condition as combining them at once. -/
theorem combine_eq (g : Grouping) (parts : ∀ c ∈ g.operands, c.Canonical) :
    g.combine connective = connective.combine g.operands := by
  obtain ⟨canonical, same⟩ := terms?_combine g parts
  calc g.combine connective
      = connective.combine [g.combine connective] := (Connective.combine_singleton canonical).symm
    _ = connective.ofTerms (connective.terms? g.operands) := by
        rw [Connective.combine_eq_ofTerms, same]
    _ = connective.combine g.operands := (Connective.combine_eq_ofTerms _ _).symm

end Grouping

namespace Condition

/-- Conjunction is a monoid on what has been built: combining two rows one by one, or any row in
any groups, gives the very tree of the whole row, `always` is neutral and `never` absorbs.
Disjunction is one likewise, with the constants exchanged. -/
theorem all_any_append {xs ys : List Condition} (first : ∀ c ∈ xs, c.Built)
    (second : ∀ c ∈ ys, c.Built) :
    (all (xs ++ ys) = all [all xs, all ys] ∧ (all xs = never ↔ never ∈ xs) ∧
      (all xs = always ↔ ∀ c ∈ xs, c = always)) ∧
    (any (xs ++ ys) = any [any xs, any ys] ∧ (any xs = always ↔ always ∈ xs) ∧
      (any xs = never ↔ ∀ c ∈ xs, c = never)) ∧
    ∀ (connective : Connective) (g : Grouping), g.operands = xs →
      g.combine connective = connective.combine xs := by
  have canonical : ∀ c ∈ xs, c.Canonical := fun c member => (first c member).canonical
  have more : ∀ c ∈ ys, c.Canonical := fun c member => (second c member).canonical
  refine ⟨⟨?_, ?_, ?_⟩, ⟨?_, ?_, ?_⟩, ?_⟩
  · exact @Connective.combine_append .and xs ys canonical more
  · exact @Connective.combine_eq_absorbing_iff .and xs canonical
  · exact @Connective.combine_eq_unit_iff .and xs canonical
  · exact @Connective.combine_append .or xs ys canonical more
  · exact @Connective.combine_eq_absorbing_iff .or xs canonical
  · exact @Connective.combine_eq_unit_iff .or xs canonical
  · rintro connective g rfl
    exact g.combine_eq canonical

/-- The conjunction at the end of the first row is spliced, wherever it is put, and an empty
group is no different from the constant that is dropped. -/
theorem all_any_append_of_empty_group :
    ∃ (xs ys : List Condition) (g : Grouping) (a b c : Condition),
      (∀ c ∈ xs, c.Built) ∧ (∀ c ∈ ys, c.Built) ∧ g.operands = xs ∧
      all (xs ++ ys) = all [all xs, all ys] ∧ any (xs ++ ys) = any [any xs, any ys] ∧
      g.combine .and = Connective.and.combine xs ∧ g.combine .and = conj [a, b] ∧
      all (xs ++ ys) = conj [a, b, c] ∧ any xs = always := by
  let a := lt (.value (.int .i64 9 (by decide)))
  let b := ne (.reference "m")
  let xs := [always, a &&& b]
  let ys := [failure "last"]
  let g := Grouping.group [.group [], .group [.operand always, .group [.operand (a &&& b)]]]
  have first : ∀ c ∈ xs, c.Built := by
    simp only [xs, List.forall_mem_cons, List.not_mem_nil, false_implies, implies_true, and_true]
    exact ⟨.always, .and (.scalar rfl _) (.scalar rfl _)⟩
  have second : ∀ c ∈ ys, c.Built := by
    simp only [ys, List.forall_mem_cons, List.not_mem_nil, false_implies, implies_true, and_true]
    exact .failure _
  obtain ⟨⟨joined, -, -⟩, ⟨joinedAny, absorbed, -⟩, grouped⟩ := all_any_append first second
  exact ⟨xs, ys, g, a, b, failure "last", first, second, rfl, joined, joinedAny, grouped .and g rfl,
    rfl, rfl, absorbed.mpr List.mem_cons_self⟩

end Condition

end RecordFilter
