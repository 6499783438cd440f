import RecordFilter.Printing.Basic
import RecordFilter.Proofs.Condition.Terms
import RecordFilter.Proofs.Outcome

/-!
# How fragments are put together

The fragments of a condition are made of the rows that are printed for what is right below it.
Values, terms and constraints are printed one by one, up to the first that cannot be printed. The
terms of a node and the constraints on fields are joined in one way: with the connective between
them, and in parentheses where they would clash with the node around them. So what holds of all
printed rows is shown for each way to make one.

## Main definitions

* `Connective.surrounding`, `Connective.clashing`: what the terms of a node stand in, and where the
  node itself is put in parentheses
* `Connective.joinRows`: rows joined by a connective

## Main results

* `Condition.fragments_node`, `Condition.fragments_fields`: what is printed for a node
* `Condition.fragments_induction`: what holds of all printed rows
-/

namespace RecordFilter

/-! ### Connectives -/

namespace Connective

/-- The fragment of a connective. -/
def fragment : Connective → Fragment
  | and => .and
  | or => .or

/-- What the terms of a node are printed inside of. -/
def surrounding : Connective → Surrounding
  | and => .conj
  | or => .disj

/-- The surroundings in which a node is put in parentheses: a node of the other connective. -/
def clashing : Connective → Surrounding
  | and => .disj
  | or => .conj

/-- Rows joined by a connective, in parentheses where they would clash with what is around them. -/
def joinRows (connective : Connective) (inside : Surrounding) (rows : List (List Fragment)) :
    List Fragment :=
  let body := [connective.fragment].intercalate rows
  if inside = connective.clashing then Fragment.enclose body else body

end Connective

/-! ### One by one -/

theorem Dialect.values_eq_mapM (d : Dialect) (values : List Value) :
    d.values values = values.mapM d.value := by
  induction values with
  | nil => rfl
  | cons v rest ih => rw [Dialect.values, List.mapM_cons, ih]

namespace Condition

variable {d : Dialect} {field : Option String} {inside : Surrounding}

theorem termFragments_eq_mapM (terms : List Condition) :
    termFragments d field inside terms = terms.mapM (fragments d field inside) := by
  induction terms with
  | nil => rfl
  | cons t rest ih => rw [termFragments, List.mapM_cons, ih]

theorem constraintFragments_eq_mapM (constraints : List (String × Condition)) :
    constraintFragments d constraints =
      constraints.mapM fun f => f.2.fragments d (some f.1) .conj := by
  induction constraints with
  | nil => rfl
  | cons f rest ih => rw [constraintFragments, List.mapM_cons, ih]

/-! ### Nodes -/

/-- A node is printed as its terms, joined by the connective. -/
theorem fragments_node (connective : Connective) (terms : List Condition) :
    (connective.node terms).fragments d field inside =
      (terms.mapM (fragments d field connective.surrounding)).map (connective.joinRows inside) := by
  have bound : (connective.node terms).fragments d field inside =
      termFragments d field connective.surrounding terms >>= fun rows =>
        pure (connective.joinRows inside rows) := by
    cases connective <;> rw [Connective.node, fragments] <;> rfl
  rw [bound, termFragments_eq_mapM]
  cases terms.mapM (fragments d field connective.surrounding) <;> rfl

/-- Constraints are printed as the terms of a conjunction. -/
theorem fragments_fields {constraints : List (String × Condition)} (nonempty : constraints ≠ []) :
    (fields constraints).fragments d none inside =
      (constraints.mapM fun (f : String × Condition) => f.2.fragments d (some f.1) .conj).map
        (Connective.and.joinRows inside) := by
  have notEmpty : ¬ constraints.isEmpty = true := mt List.isEmpty_iff.mp nonempty
  rw [fragments, if_neg notEmpty, constraintFragments_eq_mapM]
  cases constraints.mapM fun f => f.2.fragments d (some f.1) .conj <;> rfl

/-- Printed rows are put together from what is printed for the parts of a condition. So they have
a property if each way to put them together preserves it. -/
theorem fragments_induction
    {motive : Option String → Surrounding → Condition → List Fragment → Prop}
    (always : ∀ {field inside}, motive field inside .always [.constant true])
    (never : ∀ {field inside}, motive field inside .never [.constant false])
    (comparison : ∀ {field inside leaf text}, d.comparison field leaf = .ok text →
      motive field inside (.comparison leaf) [.atom text])
    (node : ∀ {field inside} {connective : Connective} {terms rows},
      terms.mapM (fragments d field connective.surrounding) = .ok rows →
      (∀ t ∈ terms, ∀ row, t.fragments d field connective.surrounding = .ok row →
        motive field connective.surrounding t row) →
      motive field inside (connective.node terms) (connective.joinRows inside rows))
    (invert : ∀ {field inside inner body}, inner.fragments d field .top = .ok body →
      motive field .top inner body →
      motive field inside (.invert inner) (.not :: Fragment.enclose body))
    (noFields : ∀ {inside}, motive none inside (.fields []) [.constant true])
    (fields : ∀ {inside constraints rows}, constraints ≠ [] →
      (constraints.mapM fun f => f.2.fragments d (some f.1) .conj) = .ok rows →
      (∀ f ∈ constraints, ∀ row, f.2.fragments d (some f.1) .conj = .ok row →
        motive (some f.1) .conj f.2 row) →
      motive none inside (.fields constraints) (Connective.and.joinRows inside rows))
    {c : Condition} {row : List Fragment} (printed : c.fragments d field inside = .ok row) :
    motive field inside c row := by
  induction c using node_induction generalizing field inside row with
  | always =>
    rw [fragments] at printed
    cases printed
    exact always
  | never =>
    rw [fragments] at printed
    cases printed
    exact never
  | comparison leaf =>
    rw [fragments] at printed
    obtain ⟨text, spelled, rfl⟩ := map_eq_ok_iff.mp printed
    exact comparison spelled
  | node connective terms ih =>
    rw [fragments_node] at printed
    obtain ⟨rows, printedTerms, rfl⟩ := map_eq_ok_iff.mp printed
    exact node printedTerms fun t member row => ih t member
  | invert inner ih =>
    rw [fragments] at printed
    obtain ⟨body, printedInner, printed⟩ := bind_eq_ok_iff.mp printed
    cases printed
    exact invert printedInner (ih printedInner)
  | fields constraints ih =>
    cases field with
    | some outer =>
      rw [fragments] at printed
      cases printed
    | none =>
      by_cases empty : constraints = []
      · subst empty
        rw [fragments] at printed
        cases printed
        exact noFields
      · rw [fragments_fields empty] at printed
        obtain ⟨rows, printedConstraints, rfl⟩ := map_eq_ok_iff.mp printed
        exact fields empty printedConstraints fun f member row => ih f member
  | failure message =>
    rw [fragments] at printed
    cases printed

end Condition

end RecordFilter
