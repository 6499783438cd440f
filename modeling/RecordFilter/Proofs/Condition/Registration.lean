import RecordFilter.Printing.Basic
import RecordFilter.Proofs.Condition.ShortCircuit
import RecordFilter.Proofs.NameTable

/-!
# Registering constraints

Constraints on fields are added one after the other, and one for a field that has a constraint
already replaces it. What has been added last under each name is all that the condition knows of
its history: the constraints stand in the order of their names, whatever the order in which they
were added. So the first field that is missing, and the first constraint that fails, does not
depend on that order either, and neither does the printed text.

## Main definitions

* `Condition.withFields?`: constraints added one after the other

## Main results

* `Condition.withFields?_fields`: what a row of additions makes of a table
* `Condition.registrations_determine_fields`: what is left of a row of additions
-/

namespace RecordFilter.Condition

open NameTable (IsLast)

variable {calls others : List (String × Condition)} {table : List (String × Condition)}

/-- Constraints added one after the other. -/
def withFields? (c : Condition) (calls : List (String × Condition)) : Option Condition :=
  calls.foldlM (fun c f => c.withField? f.1 f.2) c

/-- One addition, and those after it. -/
theorem withFields?_cons (c : Condition) (f : String × Condition)
    (calls : List (String × Condition)) :
    c.withFields? (f :: calls) = (c.withField? f.1 f.2).bind fun c => c.withFields? calls :=
  rfl

/-- A table of constraints takes any row of additions, each as an insertion. -/
theorem withFields?_fields (table calls : List (String × Condition)) :
    (fields table).withFields? calls =
      some (fields (calls.foldl (fun table f => NameTable.insert f.1 f.2 table) table)) := by
  induction calls generalizing table with
  | nil => rfl
  | cons f rest ih =>
    rw [withFields?_cons, withField?, Option.bind_some, ih, List.foldl_cons]

/-- From the start, constraints added one by one make the condition with all of them. -/
theorem withFields?_noFields (calls : List (String × Condition)) :
    (fields []).withFields? calls = some (fields (NameTable.ofList calls)) :=
  withFields?_fields [] calls

/-- Two rows of additions make one condition exactly if they agree on the last constraint of
every name. -/
theorem withFields?_eq_withFields?_iff :
    (fields []).withFields? others = (fields []).withFields? calls ↔
      ∀ name c, IsLast others name c ↔ IsLast calls name c := by
  rw [withFields?_noFields, withFields?_noFields, Option.some_inj, fields.injEq,
    NameTable.ofList_eq_ofList_iff]

/-- What is left of constraints that are added one after the other, from the empty table on.
Every addition is taken. The names are strictly increasing in the order of their bytes, each has
the constraint that was added last under it, and there are as many as different names. An
evaluation looks at the constraints in this order. Two rows of additions that agree on the last
constraint of every name make one condition, and no others do; so does every permutation of a
row without repeated names. One condition has one outcome on every record, errors included, and
one text in every dialect. -/
theorem registrations_determine_fields [Pattern.Engine] (calls : List (String × Condition)) :
    ∃ constraints, (fields []).withFields? calls = some (fields constraints) ∧
      (constraints.map fun f => Text.utf8Bytes f.1).Pairwise (· < ·) ∧
      (∀ name c, (name, c) ∈ constraints ↔ IsLast calls name c) ∧
      (∀ name c, NameTable.find? name constraints = some c ↔ IsLast calls name c) ∧
      constraints.length = (calls.map Prod.fst).toFinset.card ∧
      (∀ record scope, (fields constraints).eval record scope =
        shortCircuit true (constraints.map (constraintOutcome record))) ∧
      (∀ others, (fields []).withFields? others = some (fields constraints) ↔
        ∀ name c, IsLast others name c ↔ IsLast calls name c) ∧
      (∀ others, others.Perm calls → (calls.map Prod.fst).Nodup →
        (fields []).withFields? others = some (fields constraints)) ∧
      ∀ others again, (∀ name c, IsLast others name c ↔ IsLast calls name c) →
        (fields []).withFields? others = some again →
          again = fields constraints ∧
          (∀ record scope, again.eval record scope = (fields constraints).eval record scope) ∧
          ∀ d, again.print d = (fields constraints).print d := by
  have made := withFields?_noFields calls
  have sorted := NameTable.sorted_ofList calls
  refine ⟨NameTable.ofList calls, made, sorted.utf8Bytes_lt, fun _ _ => NameTable.mem_ofList_iff,
    fun _ _ => NameTable.find?_ofList_eq_some_iff, NameTable.length_ofList calls,
    fun record scope => eval_fields _, fun others => ?_, fun others perm distinct => ?_,
    fun others again agree remade => ?_⟩
  · rw [← made]
    exact withFields?_eq_withFields?_iff
  · rw [withFields?_noFields, NameTable.ofList_perm perm distinct]
  · rw [withFields?_eq_withFields?_iff.mpr agree, made] at remade
    obtain rfl := Option.some.inj remade
    exact ⟨rfl, fun _ _ => rfl, fun _ => rfl⟩

/-- A constraint that would fail is replaced before it is looked at, so the first thing to go
wrong is a missing field, in this order of additions and in any other one. -/
theorem registrations_determine_fields_of_replaced :
    ∃ (calls others permuted : List (String × Condition)) (c : Condition) (record : Record),
      (∀ name c, IsLast others name c ↔ IsLast calls name c) ∧
      permuted.Perm others ∧ (others.map Prod.fst).Nodup ∧
      (fields []).withFields? calls = some c ∧ (fields []).withFields? others = some c ∧
      (fields []).withFields? permuted = some c ∧
      c.eval record none = .error (.missingField "é") ∧ calls.length = 4 := by
  let one : Value := .int .i64 1 (by decide)
  let calls := [("é", always), ("b", failure "boom"), ("a", eq (.value one)), ("b", always)]
  let others := [("a", eq (.value one)), ("b", always), ("é", always)]
  let permuted := [("b", always), ("a", eq (.value one)), ("é", always)]
  let record := Record.ofFields [("a", one), ("b", .text "x")]
  have ab : "a" < "b" := by decide +kernel
  have bé : "b" < "é" := by decide +kernel
  have aé : "a" < "é" := ab.trans bé
  -- both rows make one table, which is quicker to see than that they agree name by name
  have agree : ∀ name c, IsLast others name c ↔ IsLast calls name c := by
    refine NameTable.ofList_eq_ofList_iff.mp ?_
    simp only [calls, others, NameTable.ofList, List.foldl_cons, List.foldl_nil, NameTable.insert,
      lt_irrefl, ab, ab.ne', lt_asymm ab, bé, bé.ne', lt_asymm bé, aé, aé.ne', lt_asymm aé, if_true,
      if_false]
  have perm : permuted.Perm others := .swap _ _ _
  have distinct : (others.map Prod.fst).Nodup := by decide
  obtain ⟨constraints, made, -, -, -, -, -, same, -, -⟩ := registrations_determine_fields calls
  obtain ⟨_, madeToo, -, -, -, -, -, -, order, -⟩ := registrations_determine_fields others
  have again := (same others).mpr agree
  have swapped := order permuted perm distinct
  rw [again] at madeToo
  rw [← madeToo] at swapped
  refine ⟨calls, others, permuted, _, record, agree, perm, distinct, made, again, swapped, ?_, rfl⟩
  obtain rfl := fields.inj (Option.some.inj (made.symm.trans (withFields?_noFields calls)))
  decide +kernel

end RecordFilter.Condition
