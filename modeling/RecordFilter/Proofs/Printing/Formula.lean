import RecordFilter.Proofs.Printing.Fragments

/-!
# Reading printed conditions

Printed conditions are read as Boolean formulas over their atoms. Parentheses come first,
`NOT` applies to the parentheses after it, and `AND` binds tighter than `OR`. This is said
by a grammar in which a row joined by a connective consists of rows that are bound tighter.
The grammar is not ambiguous: a reader that goes through a row once, with a stack of the
parentheses that are open, finds the only formula that the row can be.

## Main definitions

* `Formula`, with `Formula.eval` and `Formula.atoms`
* `Formula.Reads`: the grammar of fragments
* `Formula.Spelled`: the grammar of texts
* `Formula.read?`: the reader
* `Formula.Means`: a row is read as a formula with certain truth values

## Main results

* `Formula.Reads.read?_eq_some`: the reader finds every formula of the grammar
* `Formula.Reads.unique`: a row of fragments is at most one formula
* `Formula.Reads.spelled`: the text of a row spells its formula
* `Formula.means_intercalate`: rows joined by a connective are a row
-/

namespace RecordFilter

/-- What a connective says of two truth values. -/
def Connective.apply : Connective → Bool → Bool → Bool
  | and, a, b => a && b
  | or, a, b => a || b

theorem Connective.apply_assoc (connective : Connective) (a b c : Bool) :
    connective.apply (connective.apply a b) c = connective.apply a (connective.apply b c) := by
  cases connective with
  | and => exact Bool.and_assoc a b c
  | or => exact Bool.or_assoc a b c

theorem Connective.apply_neutral (connective : Connective) (a : Bool) :
    connective.apply a connective.neutral = a := by
  cases connective with
  | and => exact Bool.and_true a
  | or => exact Bool.or_false a

/-- The text of a comparison, if the fragment is one. -/
def Fragment.atom? : Fragment → Option String
  | atom text => some text
  | _ => none

theorem Fragment.filterMap_atom?_enclose (fs : List Fragment) :
    (enclose fs).filterMap atom? = fs.filterMap atom? := by
  rw [enclose, List.cons_append, List.filterMap_cons_none rfl, List.filterMap_append,
    List.filterMap_cons_none rfl, List.filterMap_nil, List.append_nil]

theorem Connective.filterMap_atom?_append (connective : Connective) (fs gs : List Fragment) :
    (fs ++ connective.fragment :: gs).filterMap Fragment.atom? =
      fs.filterMap Fragment.atom? ++ gs.filterMap Fragment.atom? := by
  have noAtom : connective.fragment.atom? = none := by cases connective <;> rfl
  rw [List.filterMap_append, List.filterMap_cons_none noAtom]

/-- Joined rows have the atoms of the rows, one after the other. -/
theorem Connective.filterMap_atom?_joinRows (connective : Connective) (inside : Surrounding)
    (rows : List (List Fragment)) : (connective.joinRows inside rows).filterMap Fragment.atom? =
      rows.flatMap (List.filterMap Fragment.atom?) := by
  have body : ([connective.fragment].intercalate rows).filterMap Fragment.atom? =
      rows.flatMap (List.filterMap Fragment.atom?) := by
    induction rows with
    | nil => rfl
    | cons row rest ih =>
      cases rest with
      | nil => simp
      | cons second rest =>
        rw [List.flatMap_cons, ← ih, List.intercalate_cons_cons, List.append_assoc,
          List.singleton_append, connective.filterMap_atom?_append]
  unfold joinRows
  split
  · rw [Fragment.filterMap_atom?_enclose, body]
  · exact body

/-- A Boolean formula over atoms. -/
inductive Formula where
  | constant (b : Bool)
  | atom (text : String)
  | joined (connective : Connective) (left right : Formula)
  | negated (inner : Formula)
  deriving DecidableEq, Repr

namespace Formula

/-- The truth value of a formula, given the truth values of the atoms. -/
def eval (assign : String → Bool) : Formula → Bool
  | constant b => b
  | atom text => assign text
  | joined connective left right => connective.apply (left.eval assign) (right.eval assign)
  | negated inner => !inner.eval assign

/-- The atoms of a formula, from left to right. -/
def atoms : Formula → List String
  | constant _ => []
  | atom text => [text]
  | joined _ left right => left.atoms ++ right.atoms
  | negated inner => inner.atoms

/-- How tightly the fragments of a row are bound. -/
inductive Level where
  /-- A constant, an atom, or a row between parentheses. -/
  | operand
  /-- Operands joined by `AND`. -/
  | conj
  /-- Conjunctions joined by `OR`. -/
  | disj
  deriving DecidableEq, Repr

end Formula

/-- The rows that can stand in the surroundings. -/
def Surrounding.level : Surrounding → Formula.Level
  | top => .disj
  | conj => .conj
  | disj => .disj

/-- The rows that a connective makes. -/
def Connective.level (connective : Connective) : Formula.Level := connective.surrounding.level

theorem Connective.level_injective {connective other : Connective}
    (same : connective.level = other.level) : connective = other := by
  cases connective <;> cases other <;> trivial

/-- The rows that a connective joins. They are bound tighter than what it makes of them. -/
def Connective.operandLevel : Connective → Formula.Level
  | and => .operand
  | or => .conj

namespace Formula

/-- The row of fragments is the formula. -/
inductive Reads : Level → List Fragment → Formula → Prop
  | constant (b : Bool) : Reads .operand [.constant b] (.constant b)
  | atom (text : String) : Reads .operand [.atom text] (.atom text)
  | group {fs : List Fragment} {φ : Formula} (inner : Reads .disj fs φ) :
      Reads .operand (Fragment.enclose fs) φ
  | negation {fs : List Fragment} {φ : Formula} (inner : Reads .disj fs φ) :
      Reads .operand (.not :: Fragment.enclose fs) (.negated φ)
  | single {connective : Connective} {fs : List Fragment} {φ : Formula}
      (only : Reads connective.operandLevel fs φ) : Reads connective.level fs φ
  | join {connective : Connective} {fs gs : List Fragment} {φ ψ : Formula}
      (before : Reads connective.level fs φ) (last : Reads connective.operandLevel gs ψ) :
      Reads connective.level (fs ++ connective.fragment :: gs) (.joined connective φ ψ)

/-! ### The reader -/

/-- A formula joined to what stands before it, if anything does. -/
def joinAfter (connective : Connective) : Option Formula → Formula → Formula
  | none, φ => φ
  | some before, φ => .joined connective before φ

/-- What has been read inside some parentheses and waits for an operand: the alternatives
that are complete, and the operands of the conjunction that is not. -/
structure Pending where
  alternatives : Option Formula
  operands : Option Formula

/-- Nothing has been read inside the parentheses. -/
def Pending.start : Pending := ⟨none, none⟩

mutual

/-- Reads on where an operand has to stand. `groups` are the parentheses around the current
ones, from the inside out, and whether the group that they wait for is negated. -/
def readOperand (pending : Pending) (groups : List (Bool × Pending)) :
    List Fragment → Option Formula
  | .constant b :: rest =>
    readConnective pending.alternatives (joinAfter .and pending.operands (.constant b)) groups rest
  | .atom text :: rest =>
    readConnective pending.alternatives (joinAfter .and pending.operands (.atom text)) groups rest
  | .opening :: rest => readOperand .start ((false, pending) :: groups) rest
  | .not :: .opening :: rest => readOperand .start ((true, pending) :: groups) rest
  | _ => none

/-- Reads on after the operand of a conjunction. -/
def readConnective (alternatives : Option Formula) (conjunction : Formula)
    (groups : List (Bool × Pending)) : List Fragment → Option Formula
  | [] => if groups.isEmpty then some (joinAfter .or alternatives conjunction) else none
  | .and :: rest => readOperand ⟨alternatives, some conjunction⟩ groups rest
  | .or :: rest => readOperand ⟨some (joinAfter .or alternatives conjunction), none⟩ groups rest
  | .closing :: rest =>
    match groups with
    | [] => none
    | (negative, outer) :: around =>
      let inner := joinAfter .or alternatives conjunction
      let whole := if negative then .negated inner else inner
      readConnective outer.alternatives (joinAfter .and outer.operands whole) around rest
  | _ => none

end

/-- The formula that a row of fragments is. -/
def read? (fs : List Fragment) : Option Formula := readOperand .start [] fs

/-- What the reader makes of a row that is a formula, whatever stands around it. A row of
alternatives leaves the last of them open, since the row may go on with `AND`. -/
def IsRead : Level → List Fragment → Formula → Prop
  | .operand, fs, φ => ∀ pending groups rest,
    readOperand pending groups (fs ++ rest) =
      readConnective pending.alternatives (joinAfter .and pending.operands φ) groups rest
  | .conj, fs, φ => ∀ alternatives groups rest,
    readOperand ⟨alternatives, none⟩ groups (fs ++ rest) =
      readConnective alternatives φ groups rest
  | .disj, fs, φ => ∃ alternatives last, joinAfter .or alternatives last = φ ∧
    ∀ groups rest,
      readOperand .start groups (fs ++ rest) = readConnective alternatives last groups rest

/-- The reader passes over every row of the grammar and keeps its formula. -/
theorem Reads.isRead {level : Level} {fs : List Fragment} {φ : Formula} (h : Reads level fs φ) :
    IsRead level fs φ := by
  induction h with
  | constant b =>
    intro pending groups rest
    rw [List.singleton_append, readOperand]
  | atom text =>
    intro pending groups rest
    rw [List.singleton_append, readOperand]
  | @group fs φ _ ih =>
    obtain ⟨alternatives, last, same, reads⟩ := ih
    intro pending groups rest
    rw [Fragment.enclose, List.cons_append, List.cons_append, List.append_assoc, readOperand,
      reads, List.singleton_append, readConnective, same]
    rfl
  | @negation fs φ _ ih =>
    obtain ⟨alternatives, last, same, reads⟩ := ih
    intro pending groups rest
    rw [Fragment.enclose, List.cons_append, List.cons_append, List.cons_append,
      List.append_assoc, readOperand, reads, List.singleton_append, readConnective, same]
    rfl
  | @single connective fs φ _ ih =>
    cases connective with
    | and =>
      intro alternatives groups rest
      exact ih ⟨alternatives, none⟩ groups rest
    | or => exact ⟨none, φ, rfl, ih none⟩
  | @join connective fs gs φ ψ _ _ before last =>
    cases connective with
    | and =>
      intro alternatives groups rest
      rw [List.append_assoc, before, Connective.fragment, List.cons_append, readConnective]
      exact last ⟨alternatives, some φ⟩ groups rest
    | or =>
      obtain ⟨alternatives, final, same, reads⟩ := before
      refine ⟨some φ, ψ, rfl, ?_⟩
      intro groups rest
      rw [List.append_assoc, reads, Connective.fragment, List.cons_append, readConnective, same]
      exact last (some φ) groups rest

/-- The reader finds every formula of the grammar. -/
theorem Reads.read?_eq_some {fs : List Fragment} {φ : Formula} (h : Reads .disj fs φ) :
    read? fs = some φ := by
  obtain ⟨alternatives, last, same, reads⟩ := h.isRead
  have whole := reads [] []
  rw [List.append_nil] at whole
  rw [read?, whole, readConnective, same]
  rfl

/-- A row of fragments is at most one formula. -/
theorem Reads.unique {fs : List Fragment} {φ ψ : Formula} (h : Reads .disj fs φ)
    (other : Reads .disj fs ψ) : φ = ψ := by
  have same := h.read?_eq_some
  rw [other.read?_eq_some] at same
  exact (Option.some.inj same).symm

/-- A conjunction is a row with one alternative. -/
theorem Reads.of_conj {fs : List Fragment} {φ : Formula} (reads : Reads .conj fs φ) :
    Reads .disj fs φ :=
  @Reads.single .or fs φ reads

/-- An operand is a row of any level. -/
theorem Reads.of_operand {level : Level} {fs : List Fragment} {φ : Formula}
    (reads : Reads .operand fs φ) : Reads level fs φ := by
  have conj : Reads .conj fs φ := @Reads.single .and fs φ reads
  cases level with
  | operand => exact reads
  | conj => exact conj
  | disj => exact conj.of_conj

/-- The atoms of a formula are those of its row. -/
theorem Reads.atoms_eq {level : Level} {fs : List Fragment} {φ : Formula}
    (reads : Reads level fs φ) : φ.atoms = fs.filterMap Fragment.atom? := by
  induction reads with
  | constant | atom => rfl
  | group _ ih => rw [Fragment.filterMap_atom?_enclose, ih]
  | negation _ ih =>
    rw [List.filterMap_cons, Fragment.filterMap_atom?_enclose, ← ih]
    rfl
  | single _ ih => exact ih
  | join _ _ before last => rw [Connective.filterMap_atom?_append, atoms, before, last]

/-! ### Texts -/

/-- The text spells the formula. Atoms stand for themselves, a constant is spelled as in the
dialect, and everything else is parentheses and the words `NOT`, `AND` and `OR`. -/
inductive Spelled (d : Dialect) : Level → String → Formula → Prop
  | constant (b : Bool) : Spelled d .operand (d.constant b) (.constant b)
  | atom (text : String) : Spelled d .operand text (.atom text)
  | group {text : String} {φ : Formula} (inner : Spelled d .disj text φ) :
      Spelled d .operand ("(" ++ text ++ ")") φ
  | negation {text : String} {φ : Formula} (inner : Spelled d .disj text φ) :
      Spelled d .operand ("NOT (" ++ text ++ ")") (.negated φ)
  | operand {text : String} {φ : Formula} (only : Spelled d .operand text φ) :
      Spelled d .conj text φ
  | conjunction {text : String} {φ : Formula} (only : Spelled d .conj text φ) :
      Spelled d .disj text φ
  | and {text last : String} {φ ψ : Formula} (before : Spelled d .conj text φ)
      (operand : Spelled d .operand last ψ) :
      Spelled d .conj (text ++ " AND " ++ last) (.joined .and φ ψ)
  | or {text last : String} {φ ψ : Formula} (before : Spelled d .disj text φ)
      (alternative : Spelled d .conj last ψ) :
      Spelled d .disj (text ++ " OR " ++ last) (.joined .or φ ψ)

/-- The text of a row of fragments spells the formula that the row is read as. -/
theorem Reads.spelled {level : Level} {fs : List Fragment} {φ : Formula} (d : Dialect)
    (reads : Reads level fs φ) : Spelled d level (String.join (fs.map (Fragment.text d))) φ := by
  induction reads with
  | constant b => simpa [Fragment.text] using Spelled.constant b
  | atom text => simpa [Fragment.text] using Spelled.atom text
  | group _ ih => simpa [Fragment.enclose, Fragment.text, ← String.append_assoc] using ih.group
  | negation _ ih =>
    simpa [Fragment.enclose, Fragment.text, ← String.append_assoc] using ih.negation
  | @single connective _ _ _ ih =>
    cases connective with
    | and => exact ih.operand
    | or => exact ih.conjunction
  | @join connective fs gs _ _ _ _ before last =>
    have whole : String.join ((fs ++ connective.fragment :: gs).map (Fragment.text d)) =
        String.join (fs.map (Fragment.text d)) ++ connective.fragment.text d ++
          String.join (gs.map (Fragment.text d)) := by
      simp [← String.append_assoc]
    rw [whole]
    cases connective with
    | and => exact before.and last
    | or => exact before.or last

/-! ### Rows and their truth values -/

/-- The row of fragments can be read, as a formula that has the given truth values. -/
def Means (level : Level) (fs : List Fragment) (value : (String → Bool) → Bool) : Prop :=
  ∃ φ, Reads level fs φ ∧ ∀ assign, φ.eval assign = value assign

variable {level : Level} {fs gs : List Fragment} {value other : (String → Bool) → Bool}

theorem Means.of_operand (h : Means .operand fs value) : Means level fs value := by
  obtain ⟨φ, reads, same⟩ := h
  exact ⟨φ, reads.of_operand, same⟩

theorem Means.of_conj (h : Means .conj fs value) : Means .disj fs value := by
  obtain ⟨φ, reads, same⟩ := h
  exact ⟨φ, reads.of_conj, same⟩

/-- Parentheses make an operand of any row. -/
theorem Means.enclose (h : Means .disj fs value) : Means .operand (Fragment.enclose fs) value := by
  obtain ⟨φ, reads, same⟩ := h
  exact ⟨φ, .group reads, same⟩

theorem Means.negate (h : Means .disj fs value) :
    Means .operand (.not :: Fragment.enclose fs) (fun assign => !value assign) := by
  obtain ⟨φ, reads, same⟩ := h
  refine ⟨.negated φ, .negation reads, ?_⟩
  intro assign
  rw [eval, same]

/-- Two rows of one connective make one row, which is read from the left. -/
theorem Means.join {connective : Connective} (before : Means connective.level fs value)
    (after : Means connective.level gs other) :
    Means connective.level (fs ++ connective.fragment :: gs)
      (fun assign => connective.apply (value assign) (other assign)) := by
  obtain ⟨φ, reads, same⟩ := before
  obtain ⟨ψ, readsAfter, sameAfter⟩ := after
  simp only [← same, ← sameAfter]
  clear same sameAfter
  generalize made : connective.level = level at readsAfter
  -- the second row may be joined itself, and then its last operand comes last in the whole
  induction readsAfter with
  | constant | atom | group | negation => cases connective <;> cases made
  | @single written gs ψ only =>
    obtain rfl := Connective.level_injective made
    exact ⟨_, .join reads only, fun _ => rfl⟩
  | @join written gs last ψ χ _ lastReads ih =>
    obtain rfl := Connective.level_injective made
    obtain ⟨whole, wholeReads, wholeSame⟩ := ih made
    refine ⟨.joined connective whole χ, ?_, ?_⟩
    · rw [← List.cons_append, ← List.append_assoc]
      exact .join wholeReads lastReads
    · intro assign
      simp only [eval, wholeSame, Connective.apply_assoc]

/-- Rows joined by their connective are one row. -/
theorem means_intercalate {connective : Connective} {rows : List (List Fragment)}
    {values : List ((String → Bool) → Bool)}
    (reads : List.Forall₂ (Means connective.level) rows values) (nonempty : rows ≠ []) :
    Means connective.level ([connective.fragment].intercalate rows)
      (fun assign => (values.map (· assign)).foldr connective.apply connective.neutral) := by
  induction reads with
  | nil => exact absurd rfl nonempty
  | @cons row value rows values first later ih =>
    cases later with
    | nil =>
      simp only [List.intercalate_singleton, List.map_cons, List.map_nil, List.foldr_cons,
        List.foldr_nil, Connective.apply_neutral]
      exact first
    | cons second rest =>
      rw [List.intercalate_cons_cons, List.append_assoc]
      exact first.join (ih (List.cons_ne_nil _ _))

end Formula

end RecordFilter
