import RecordFilter.Proofs.Binary.Exactness
import RecordFilter.Proofs.Condition.Parts
import RecordFilter.Proofs.Printing.Fragments

/-!
# Why printing fails

Three sorts of nodes cannot be printed: a failure that is asked for, constraints on the fields of
a field's value, and, in a dialect that lacks literals for some values, a comparison with such a
value. Everything else is printed once the nodes below it are. The nodes are printed in the order
of a walk through the condition that comes to each node before the nodes below it, to terms in
their order and to constraints in the order of names. So printing fails exactly if the walk meets
a node of these sorts, and the first one says why.

## Main definitions

* `Condition.walk`: the nodes of a condition, each with the field that it constrains
* `Occurrence.defect?`: why a node cannot be printed
* `Value.nonFinite?`: the values without a literal in a `WHERE` clause
* `Reports`: printing fails with an error, or succeeds if there is none

## Main results

* `Condition.reports_fragments`: the first defect of the walk is reported
* `Condition.Built.print_eq_error_iff`: both dialects
-/

namespace RecordFilter

/-! ### Outcomes of printing -/

/-- Printing fails with the error if there is one, and has a result otherwise. -/
def Reports {α : Type} (printed : Except PrintError α) : Option PrintError → Prop
  | some e => printed = .error e
  | none => ∃ a, printed = .ok a

section

variable {α β : Type} {printed : Except PrintError α} {error later : Option PrintError}

theorem reports_ok (a : α) : Reports (.ok a) none := ⟨a, rfl⟩

theorem Reports.map (reports : Reports printed error) (f : α → β) :
    Reports (printed.map f) error := by
  cases error with
  | some e =>
    obtain rfl : printed = .error e := reports
    rfl
  | none =>
    obtain ⟨a, rfl⟩ := reports
    exact ⟨f a, rfl⟩

/-- Of two steps, the first error is reported. -/
theorem Reports.bind {f : α → Except PrintError β} (reports : Reports printed error)
    (next : ∀ a, Reports (f a) later) : Reports (printed >>= f) (error.or later) := by
  cases error with
  | some e =>
    obtain rfl : printed = .error e := reports
    rfl
  | none =>
    obtain ⟨a, rfl⟩ := reports
    rw [Option.none_or]
    exact next a

/-- What is done with a result without an error of its own changes no report. -/
theorem Reports.bind_ok {f : α → β} (reports : Reports printed error) :
    Reports (printed >>= fun a => .ok (f a)) error := by
  have both := reports.bind fun a => reports_ok (f a)
  rwa [Option.or_none] at both

theorem Reports.eq_error_iff (reports : Reports printed error) (e : PrintError) :
    printed = .error e ↔ error = some e := by
  cases error with
  | some other =>
    obtain rfl : printed = .error other := reports
    simp
  | none =>
    obtain ⟨a, rfl⟩ := reports
    simp

end

/-! ### The walk -/

/-- A node where it occurs in a condition: below a constraint on a field, or below none. -/
structure Occurrence where
  field : Option String
  node : Condition

namespace Condition

mutual

/-- The nodes of a condition, each before the nodes below it, terms and constraints in their
order. `field` is the field that the condition constrains, if there is one. -/
def walk (field : Option String) : Condition → List Occurrence
  | .always => [⟨field, .always⟩]
  | .never => [⟨field, .never⟩]
  | .comparison c => [⟨field, .comparison c⟩]
  | .conj terms => ⟨field, .conj terms⟩ :: walkTerms field terms
  | .disj terms => ⟨field, .disj terms⟩ :: walkTerms field terms
  | .invert inner => ⟨field, .invert inner⟩ :: inner.walk field
  | .fields constraints => ⟨field, .fields constraints⟩ :: walkConstraints constraints
  | .failure message => [⟨field, .failure message⟩]

/-- The nodes of some terms. -/
def walkTerms (field : Option String) : List Condition → List Occurrence
  | [] => []
  | t :: rest => t.walk field ++ walkTerms field rest

/-- The nodes of some constraints. -/
def walkConstraints : List (String × Condition) → List Occurrence
  | [] => []
  | (name, constraint) :: rest => constraint.walk (some name) ++ walkConstraints rest

end

theorem walkTerms_eq_flatMap (field : Option String) (terms : List Condition) :
    walkTerms field terms = terms.flatMap (walk field) := by
  induction terms with
  | nil => rfl
  | cons t rest ih => rw [walkTerms, ih, List.flatMap_cons]

theorem walkConstraints_eq_flatMap (constraints : List (String × Condition)) :
    walkConstraints constraints = constraints.flatMap fun f => f.2.walk (some f.1) := by
  induction constraints with
  | nil => rfl
  | cons f rest ih => rw [walkConstraints, ih, List.flatMap_cons]

theorem walk_node (field : Option String) (connective : Connective) (terms : List Condition) :
    (connective.node terms).walk field =
      ⟨field, connective.node terms⟩ :: walkTerms field terms := by
  cases connective <;> rw [Connective.node, walk]

end Condition

/-- Why the node cannot be printed, whatever is below it. `refused` says which values have no
literal in the dialect, and why. -/
def Occurrence.defect? (refused : Value → Option PrintError) (o : Occurrence) :
    Option PrintError :=
  match o.node with
  | .failure message => some (.unprintable message)
  | .fields _ => o.field.map .nestedFields
  | .comparison c => c.operand.values.findSome? refused
  | _ => none

/-- The name of a value that is not a finite number. -/
def Binary.nonFinite? {F : Format} (x : Binary F) : Option String :=
  if x.isNaN then some "NaN"
  else if x.isFinite then none
  else some (if x.negative then "-inf" else "inf")

/-- The error for a value that is not a finite number. -/
def Value.nonFinite? : Value → Option PrintError
  | single x => x.nonFinite?.map .nonFinite
  | double x => x.nonFinite?.map .nonFinite
  | _ => none

/-! ### Literals -/

/-- What is no finite number is named as it is written in expressions. -/
theorem Binary.nonFinite?_eq {F : Format} (x : Binary F) :
    x.nonFinite? = if x.isFinite then none else some (String.ofList x.text) := by
  unfold nonFinite? text
  cases finite : x.isFinite with
  | true => simp [isNaN_eq_false_of_isFinite finite]
  | false =>
    cases x.isNaN with
    | true => rfl
    | false =>
      unfold signText
      cases x.negative <;> rfl

/-- Filter expressions have a literal for every value. -/
theorem reports_expression_value (v : Value) : Reports (Dialect.expression.value v) none := by
  cases v <;> exact ⟨_, rfl⟩

/-- A `WHERE` clause has a literal for every value but those that are not finite numbers. -/
theorem reports_sqlite_value (v : Value) : Reports (Dialect.sqlite.value v) v.nonFinite? := by
  have number {F : Binary.Format} (x : Binary F) :
      Reports (Dialect.sqlite.number x) (x.nonFinite?.map .nonFinite) := by
    rw [x.nonFinite?_eq]
    unfold Dialect.sqlite
    dsimp only
    split
    · exact reports_ok _
    · rfl
  cases v with
  | single x => exact number x
  | double x => exact number x
  | int | bool | text => exact ⟨_, rfl⟩

section

variable {d : Dialect} {refused : Value → Option PrintError}

theorem findSome?_cons_eq_or {α β : Type} (f : α → Option β) (x : α) (xs : List α) :
    (x :: xs).findSome? f = (f x).or (xs.findSome? f) := by
  rw [List.findSome?_cons]
  cases f x <;> rfl

theorem findSome?_flatMap {α β γ : Type} (f : β → Option γ) (g : α → List β) (xs : List α) :
    (xs.flatMap g).findSome? f = xs.findSome? fun x => (g x).findSome? f := by
  induction xs with
  | nil => rfl
  | cons x rest ih => rw [List.flatMap_cons, List.findSome?_append, findSome?_cons_eq_or, ih]

/-- Of what is printed one by one, the first error is reported. -/
theorem reports_mapM {α β : Type} {f : α → Except PrintError β} {error : α → Option PrintError}
    {parts : List α} (each : ∀ a ∈ parts, Reports (f a) (error a)) :
    Reports (parts.mapM f) (parts.findSome? error) := by
  induction parts with
  | nil => exact reports_ok []
  | cons a rest ih =>
    obtain ⟨first, later⟩ := List.forall_mem_cons.mp each
    rw [List.mapM_cons, findSome?_cons_eq_or]
    exact first.bind fun _ => (ih later).bind_ok

theorem reports_comparison (literals : ∀ v, Reports (d.value v) (refused v))
    (field : Option String) (c : Comparison) :
    Reports (d.comparison field c) (c.operand.values.findSome? refused) := by
  obtain ⟨op, operand⟩ := c
  refine Reports.map ?_ _
  cases operand with
  | value v =>
    rw [Operand.values, findSome?_cons_eq_or, List.findSome?_nil, Option.or_none]
    exact literals v
  | set s =>
    rw [Dialect.operand, d.values_eq_mapM]
    exact (reports_mapM fun v _ => literals v).map d.list
  | pattern | reference => exact reports_ok _

/-! ### Conditions -/

namespace Condition

variable {field : Option String}

/-- The first defect among the nodes of a condition. -/
def firstDefect? (refused : Value → Option PrintError) (field : Option String) (c : Condition) :
    Option PrintError :=
  (c.walk field).findSome? (Occurrence.defect? refused)

/-- Printing fails with the first defect of the walk, and only then. -/
theorem reports_fragments (literals : ∀ v, Reports (d.value v) (refused v)) (c : Condition)
    (field : Option String) (inside : Surrounding) :
    Reports (c.fragments d field inside) (c.firstDefect? refused field) := by
  unfold firstDefect?
  -- the walk passes on the field and drops the surrounding, which decides on parentheses only
  induction c using node_induction generalizing field inside with
  | always | never => exact reports_ok _
  | comparison c =>
    rw [walk, findSome?_cons_eq_or, List.findSome?_nil, Option.or_none, fragments]
    exact (reports_comparison literals field c).map _
  | node connective terms parts =>
    have noDefect : Occurrence.defect? refused ⟨field, connective.node terms⟩ = none := by
      cases connective <;> rfl
    rw [walk_node, findSome?_cons_eq_or, noDefect, Option.none_or, fragments_node,
      walkTerms_eq_flatMap, findSome?_flatMap]
    exact (reports_mapM fun t member => parts t member field connective.surrounding).map _
  | invert inner below =>
    rw [walk, findSome?_cons_eq_or, fragments]
    exact (below field .top).bind_ok
  | fields constraints parts =>
    rw [walk, findSome?_cons_eq_or]
    cases field with
    | some outer => rfl
    | none =>
      by_cases empty : constraints = []
      · subst empty
        exact reports_ok _
      · rw [fragments_fields empty, walkConstraints_eq_flatMap, findSome?_flatMap]
        exact (reports_mapM fun f member => parts f member (some f.1) .conj).map _
  | failure message => rfl

theorem reports_print (literals : ∀ v, Reports (d.value v) (refused v)) (c : Condition) :
    Reports (c.print d) (c.firstDefect? refused none) :=
  (reports_fragments literals c none .top).map _

end Condition

end

namespace Condition

/-- An expression can be printed unless the walk meets a failure or constraints on the fields of
a field, and a `WHERE` clause unless it meets one of these or a comparison with a value that is
not finite. What is met first is reported. Constraints are met in the order of names. -/
theorem Built.print_eq_error_iff {c : Condition} (built : c.Built) :
    (∀ constraints, (fields constraints).IsPart c → NameTable.Sorted constraints) ∧
      (∀ e, c.print .expression = .error e ↔
        c.firstDefect? (fun _ => none) none = some e) ∧
      ∀ e, c.print .sqlite = .error e ↔ c.firstDefect? Value.nonFinite? none = some e := by
  refine ⟨fun constraints part => ?_, fun e => ?_, fun e => ?_⟩
  · cases (built.of_isPart part).canonical with
    | fields sorted parts => exact sorted
  · exact (reports_print reports_expression_value c).eq_error_iff e
  · exact (reports_print reports_sqlite_value c).eq_error_iff e

/-- The list on `a` stops a `WHERE` clause at its second value. An expression gets past it, and
meets the constraints within `b` before what was asked for on `c`. -/
theorem Built.print_eq_error_of_constraints :
    ∃ c : Condition, c.Built ∧ c.print .expression = .error (.nestedFields "b") ∧
      c.print .sqlite = .error (.nonFinite "-inf") := by
  let values : List (Binary .double) :=
    [.ofBits .double 0, .ofBits .double 0xFFF0000000000000, .ofBits .double 0x7FF8000000000000]
  let nested := Condition.onField "x" .always ||| Condition.failure "second within b"
  let constraints := [("a", Condition.isIn values), ("b", nested.negate), ("c", .failure "")]
  have built : (fields constraints).Built := by
    have within : nested.Built := .or (.onField "x" .always) (.failure _)
    have onC := @Built.withField (fields []) _ _ "c" .noFields (.failure "") rfl
    have onB := @Built.withField _ _ _ "b" onC (.negate within) rfl
    exact @Built.withField _ _ _ "a" onB (.isIn values) rfl
  obtain ⟨-, expression, sqlite⟩ := built.print_eq_error_iff
  exact ⟨_, built, (expression _).mpr rfl, (sqlite _).mpr (by decide +kernel)⟩

end Condition

end RecordFilter
