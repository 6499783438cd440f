import RecordFilter.Proofs.Condition.Canonical
import RecordFilter.Proofs.Printing.Failures
import RecordFilter.Proofs.Printing.Formula

/-!
# Printing preserves the meaning

A printed condition, read back as a formula over its comparisons, is true exactly when the
condition is, whatever truth values the comparisons have. Each part is printed so that it
can stand in its surroundings: as a conjunction inside of a conjunction, and as any row
elsewhere. Conjunctions and disjunctions without terms would leave nothing to read, but no
combinator builds them.

## Main definitions

* `Condition.truth`: the truth value of a condition, given those of its printed comparisons
* `Condition.atoms`: the texts of these comparisons

## Main results

* `Condition.Canonical.means_fragments`: the fragments of a condition mean the condition
* `Condition.Built.print_reads`, `Condition.Built.print_spelled`: the same of the printed text
-/

namespace RecordFilter

/-- The text of a comparison, if the node is one. -/
def Occurrence.atom? (d : Dialect) (o : Occurrence) : Option String :=
  match o.node with
  | .comparison c => (d.comparison o.field c).toOption
  | _ => none

namespace Condition

/-! ### Truth values -/

mutual

/-- The truth value of a condition, given the truth values of the texts of its comparisons.
`field` is the field that the condition constrains, if it is not about the record itself.
What cannot be printed counts as false. -/
def truth (d : Dialect) (assign : String → Bool) (field : Option String) : Condition → Bool
  | .always => true
  | .never => false
  | .comparison c =>
    match d.comparison field c with
    | .ok text => assign text
    | .error _ => false
  | .conj terms => allTrue d assign field terms
  | .disj terms => anyTrue d assign field terms
  | .invert inner => !inner.truth d assign field
  | .fields constraints => constraintsTrue d assign constraints
  | .failure _ => false

/-- Whether all terms are true. -/
def allTrue (d : Dialect) (assign : String → Bool) (field : Option String) :
    List Condition → Bool
  | [] => true
  | t :: rest => t.truth d assign field && allTrue d assign field rest

/-- Whether some term is true. -/
def anyTrue (d : Dialect) (assign : String → Bool) (field : Option String) :
    List Condition → Bool
  | [] => false
  | t :: rest => t.truth d assign field || anyTrue d assign field rest

/-- Whether all constraints are true, each of its own field. -/
def constraintsTrue (d : Dialect) (assign : String → Bool) :
    List (String × Condition) → Bool
  | [] => true
  | (name, constraint) :: rest =>
    constraint.truth d assign (some name) && constraintsTrue d assign rest

end

variable {d : Dialect} {field : Option String} {inside : Surrounding}

/-- A node joins the truth values of its terms. -/
theorem truth_node (assign : String → Bool) (connective : Connective) (terms : List Condition) :
    (connective.node terms).truth d assign field =
      (terms.map fun t => t.truth d assign field).foldr connective.apply connective.neutral := by
  induction terms with
  | nil => cases connective <;> rfl
  | cons t rest ih =>
    rw [List.map_cons, List.foldr_cons, ← ih]
    cases connective <;>
      simp only [Connective.node, Connective.apply, truth, allTrue, anyTrue]

/-- Constraints join their truth values as the terms of a conjunction. -/
theorem truth_fields (assign : String → Bool) (constraints : List (String × Condition)) :
    (fields constraints).truth d assign field =
      (constraints.map fun f => f.2.truth d assign (some f.1)).foldr Connective.and.apply
        Connective.and.neutral := by
  induction constraints with
  | nil => simp only [truth, constraintsTrue, List.map_nil, List.foldr_nil, Connective.neutral]
  | cons f rest ih =>
    rw [List.map_cons, List.foldr_cons, ← ih]
    simp only [Connective.apply, truth, constraintsTrue]

/-! ### Formulas -/

open Formula (Means)

variable {fs : List Fragment} {value : (String → Bool) → Bool}

/-- Every row can stand where it does not clash, and with parentheses it can stand anywhere. -/
theorem means_inside {connective : Connective} (body : Means connective.level fs value) :
    Means inside.level (if inside = connective.clashing then Fragment.enclose fs else fs) value := by
  have outermost : Means .disj fs value := by
    cases connective with
    | and => exact body.of_conj
    | or => exact body
  split
  · exact outermost.enclose.of_operand
  · next noClash =>
    cases inside with
    | top => exact outermost
    | conj | disj => cases connective <;> first | exact body | exact absurd rfl noClash

/-- Rows that mean their parts, joined by a connective, mean all of the parts together, wherever
they stand. -/
theorem means_joinRows {α : Type} {connective : Connective} {parts : List α}
    {rows : List (List Fragment)} {value : α → (String → Bool) → Bool} (inside : Surrounding)
    (reads : List.Forall₂ (fun row part => Means connective.level row (value part)) rows parts)
    (nonempty : parts ≠ []) :
    Means inside.level (connective.joinRows inside rows)
      (fun assign => (parts.map fun part => value part assign).foldr connective.apply
        connective.neutral) := by
  have rowsNonempty : rows ≠ [] := by
    rintro rfl
    cases reads
    exact nonempty rfl
  have body := Formula.means_intercalate (List.forall₂_map_right_iff.mpr reads) rowsNonempty
  simp only [List.map_map, Function.comp_def] at body
  exact means_inside body

/-- The fragments of a condition can be read, and what is read is the condition. -/
theorem Canonical.means_fragments {c : Condition} (canonical : c.Canonical)
    (printed : c.fragments d field inside = .ok fs) :
    Means inside.level fs (fun assign => c.truth d assign field) := by
  revert canonical
  refine fragments_induction (d := d) (motive := fun field inside c fs => c.Canonical →
    Means inside.level fs fun assign => c.truth d assign field)
    ?always ?never ?comparison ?node ?invert ?noFields ?fields printed
  case always =>
    intro _ _ _
    simp only [truth]
    exact .of_operand ⟨.constant true, .constant true, fun _ => rfl⟩
  case never =>
    intro _ _ _
    simp only [truth]
    exact .of_operand ⟨.constant false, .constant false, fun _ => rfl⟩
  case comparison =>
    intro _ _ leaf text spelled _
    simp only [truth, spelled]
    exact .of_operand ⟨.atom text, .atom text, fun _ => rfl⟩
  case node =>
    intro _ inside connective terms rows printed ih canonical
    obtain ⟨several, parts⟩ := canonical.of_node
    have nonempty : terms ≠ [] := by
      rintro rfl
      cases several
    have each (t : Condition) (member : t ∈ terms) (row : List Fragment) made :=
      ih t member row made (parts t member).2
    simp only [truth_node]
    exact means_joinRows inside (forall₂_of_mapM each printed) nonempty
  case invert =>
    intro _ _ inner body _ ih canonical
    cases canonical with
    | invert _ part =>
      simp only [truth]
      exact (ih part).negate.of_operand
  case noFields =>
    intro _ _
    simp only [truth, constraintsTrue]
    exact .of_operand ⟨.constant true, .constant true, fun _ => rfl⟩
  case fields =>
    intro inside constraints rows nonempty printed ih canonical
    cases canonical with
    | fields _ parts =>
      have each (f : String × Condition) (member : f ∈ constraints) (row : List Fragment) made :=
        ih f member row made (parts f member)
      simp only [truth_fields]
      exact @means_joinRows _ .and _ _ _ inside (forall₂_of_mapM each printed) nonempty

/-! ### Atoms -/

/-- The texts of the comparisons in a condition, in the order of the walk. -/
def atoms (d : Dialect) (field : Option String) (c : Condition) : List String :=
  (c.walk field).filterMap (Occurrence.atom? d)

/-- If each row has the atoms of its part, the rows together have those of all parts. -/
theorem flatMap_filterMap_atom? {α : Type} {parts : List α} {rows : List (List Fragment)}
    {below : α → List Occurrence} (each : List.Forall₂ (fun row part =>
      row.filterMap Fragment.atom? = (below part).filterMap (Occurrence.atom? d)) rows parts) :
    rows.flatMap (List.filterMap Fragment.atom?) =
      (parts.flatMap below).filterMap (Occurrence.atom? d) := by
  induction each with
  | nil => rfl
  | cons first _ ih => rw [List.flatMap_cons, List.flatMap_cons, List.filterMap_append, first, ih]

/-- The atoms that are printed are the comparisons of the condition. -/
theorem filterMap_atom?_of_fragments {c : Condition}
    (printed : c.fragments d field inside = .ok fs) :
    fs.filterMap Fragment.atom? = c.atoms d field := by
  refine fragments_induction (d := d) (motive := fun field _ c fs =>
    fs.filterMap Fragment.atom? = c.atoms d field)
    ?always ?never ?comparison ?node ?invert ?noFields ?fields printed
  case always | never =>
    intro _ _
    rfl
  case comparison =>
    intro _ _ leaf text spelled
    simp [atoms, walk, Occurrence.atom?, Fragment.atom?, spelled, Except.toOption]
  case node =>
    intro field _ connective terms rows printed ih
    have noAtom : Occurrence.atom? d ⟨field, connective.node terms⟩ = none := by
      cases connective <;> rfl
    rw [atoms, walk_node, List.filterMap_cons_none noAtom, walkTerms_eq_flatMap,
      connective.filterMap_atom?_joinRows]
    exact flatMap_filterMap_atom? (forall₂_of_mapM ih printed)
  case invert =>
    intro _ _ inner body _ ih
    rw [atoms, walk, List.filterMap_cons_none rfl, List.filterMap_cons_none rfl,
      Fragment.filterMap_atom?_enclose]
    exact ih
  case noFields =>
    intro _
    rfl
  case fields =>
    intro _ constraints rows _ printed ih
    rw [atoms, walk, List.filterMap_cons_none rfl, walkConstraints_eq_flatMap,
      Connective.filterMap_atom?_joinRows]
    exact flatMap_filterMap_atom? (forall₂_of_mapM ih printed)

/-! ### Texts -/

/-- What is printed are the texts of the fragments. -/
theorem exists_fragments_of_print {c : Condition} {text : String} (printed : c.print d = .ok text) :
    ∃ fs, c.fragments d none .top = .ok fs ∧ text = String.join (fs.map (Fragment.text d)) := by
  obtain ⟨fs, row, rfl⟩ := map_eq_ok_iff.mp printed
  exact ⟨fs, row, rfl⟩

/-- A built condition that can be printed is printed as a row of comparisons, constants,
parentheses and connectives that is a formula, and only one. Whatever truth values the
printed comparisons have, the formula has the truth value of the condition. -/
theorem Built.print_reads {c : Condition} {text : String} (built : c.Built)
    (printed : c.print d = .ok text) :
    ∃ fs φ, c.fragments d none .top = .ok fs ∧ text = String.join (fs.map (Fragment.text d)) ∧
      Formula.Reads .disj fs φ ∧ (∀ other, Formula.Reads .disj fs other → other = φ) ∧
      ∀ assign, φ.eval assign = c.truth d assign none := by
  obtain ⟨fs, row, rfl⟩ := exists_fragments_of_print printed
  obtain ⟨φ, reads, same⟩ := built.canonical.means_fragments row
  exact ⟨fs, φ, row, rfl, reads, fun other otherReads => otherReads.unique reads, same⟩

/-- The printed text by itself spells a formula over the comparisons of the condition, in a
grammar where `AND` binds tighter than `OR` and `NOT` stands before parentheses. The formula
has the truth value of the condition. -/
theorem Built.print_spelled {c : Condition} {text : String} (built : c.Built)
    (printed : c.print d = .ok text) :
    ∃ φ, Formula.Spelled d .disj text φ ∧ φ.atoms = c.atoms d none ∧
      ∀ assign, φ.eval assign = c.truth d assign none := by
  obtain ⟨fs, row, rfl⟩ := exists_fragments_of_print printed
  obtain ⟨φ, reads, same⟩ := built.canonical.means_fragments row
  exact ⟨φ, reads.spelled d, reads.atoms_eq.trans (filterMap_atom?_of_fragments row), same⟩

/-- Alternatives inside a constraint, constraints and a negation inside alternatives. The
parentheses of the list belong to its comparison. -/
theorem Built.print_reads_nested :
    ∃ c : Condition, c.Built ∧
      c.print .sqlite =
        .ok "((a > 0 OR a IN (1, 2)) AND b = 1) OR NOT (_ < 4 AND _ != 2)" ∧
      ∃ fs φ, c.fragments .sqlite none .top = .ok fs ∧
        Formula.Reads .disj fs φ ∧ (∀ other, Formula.Reads .disj fs other → other = φ) ∧
        ∀ assign, φ.eval assign = c.truth .sqlite assign none := by
  let number (n : Int) (inRange : IntKind.i64.Contains n) : Value := .int .i64 n inRange
  let members := [number 1 (by decide), number 2 (by decide)]
  let few := gt (.value (number 0 (by decide))) ||| .comparison ⟨.isIn, .set ⟨members⟩⟩
  let table := fields [("a", few), ("b", eq (.value (.bool true)))]
  let outside := ~~~(lt (.value (number 4 (by decide))) &&& ne (.value (number 2 (by decide))))
  have fewBuilt : few.Built := .or (.scalar rfl _) (@Built.isIn? members _ rfl)
  have onlyFew : (fields [("a", few)]).Built :=
    @Built.withField (fields []) few _ "a" .noFields fewBuilt rfl
  have tableBuilt : table.Built :=
    @Built.withField _ (eq (.value (.bool true))) _ "b" onlyFew (.scalar rfl _) rfl
  have outsideBuilt : outside.Built := .negate (.and (.scalar rfl _) (.scalar rfl _))
  have built : (table ||| outside).Built := .or tableBuilt outsideBuilt
  have printed : (table ||| outside).print .sqlite =
      .ok "((a > 0 OR a IN (1, 2)) AND b = 1) OR NOT (_ < 4 AND _ != 2)" := by
    decide +kernel
  obtain ⟨fs, φ, row, -, reads, unique, same⟩ := built.print_reads printed
  exact ⟨_, built, printed, fs, φ, row, reads, unique, same⟩

end Condition

end RecordFilter
