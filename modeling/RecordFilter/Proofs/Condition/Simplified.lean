import RecordFilter.Proofs.Condition.Canonical
import RecordFilter.Proofs.Expression.TypeSafety

/-!
# Nothing is left to simplify

However a condition has come about, by constructors, by combinators, by adding constraints
to fields or by parsing, no part of it could be simplified further, however deep it lies.
Parsing is no exception because it builds with the same combinators: what is parsed could
have been built by hand.

## Main definitions

* `Condition.IsPart`: a condition occurs in another one, constraints included
* `Condition.IsSimplified`: a single node is as simple as its operands allow
* `Condition.Obtained`: the conditions that a program can come by

## Main results

* `Expression.toCondition_induction`: what holds of clauses and is kept by connectives
* `Condition.Built.of_parse`: what is parsed could have been built
* `Condition.Obtained.isSimplified_of_isPart`: every part of every condition is simplified
-/

namespace RecordFilter

/-! ### Parsed conditions -/

/-- What holds of the conditions of all clauses, and is kept when two conditions are joined,
holds of the condition of the expression. -/
theorem Expression.toCondition_induction {motive : Condition → Prop} {e : Expression}
    (clauses : ∀ clause ∈ e.first :: e.rest.map Prod.snd, motive clause.toCondition)
    (join : ∀ (connective : Connective) (a b : Condition),
      motive a → motive b → motive (connective.join a b)) : motive e.toCondition := by
  obtain ⟨first, rest⟩ := e
  obtain ⟨ofFirst, ofRest⟩ := List.forall_mem_cons.mp clauses
  suffices general : ∀ soFar, motive soFar →
      motive (rest.foldl (fun c item => item.1.join c item.2.toCondition) soFar) from
    general first.toCondition ofFirst
  clear ofFirst clauses
  induction rest with
  | nil => exact fun soFar ofSoFar => ofSoFar
  | cons item rest ih =>
    obtain ⟨ofNext, ofLater⟩ := List.forall_mem_cons.mp ofRest
    intro soFar ofSoFar
    exact ih ofLater _ (join item.1 soFar item.2.toCondition ofSoFar ofNext)

namespace Condition

/-- Membership in values of one kind can be built, and so can absence from them. -/
theorem Built.membership {op : Operator} {values : List Value} {common : Kind}
    (membership : op.isMembership = true) (oneKind : ∀ v ∈ values, v.kind = common) :
    (comparison ⟨op, .set ⟨values⟩⟩).Built := by
  have collected : ValueSet.ofValues values = .ok ⟨values⟩ :=
    ValueSet.ofValues_eq_ok_iff.mpr ⟨rfl, common, oneKind⟩
  have made : membership? op values = .ok (comparison ⟨op, .set ⟨values⟩⟩) := by
    rw [membership?, collected]
    rfl
  cases op with
  | isIn => exact .isIn? made
  | notIn => exact .notIn? made
  | lt | le | gt | ge | eq | ne | isMatch | notMatch => cases membership

/-- The comparison of a spelled operand can be built. -/
theorem Built.of_operandSpelled {kind : Option Kind} {op : Operator} {operand : Operand}
    {lexemes : List Lexeme} (spelled : operand.Spelled kind op lexemes) :
    (comparison ⟨op, operand⟩).Built := by
  cases spelled with
  | value scalar => exact .scalar scalar (.value _)
  | list membership _ _ oneKind => exact .membership membership oneKind
  | pattern search =>
    cases op with
    | isMatch => exact .isMatch _
    | notMatch => exact .notMatch _
    | lt | le | gt | ge | eq | ne | isIn | notIn => cases search

theorem Built.onField {constraint : Condition} (name : String) (part : constraint.Built) :
    (onField name constraint).Built :=
  .withField .noFields part rfl

theorem Built.of_clauseSpelled {schema : Schema} {clause : Clause} {lexemes : List Lexeme}
    (said : clause.Spelled schema lexemes) : clause.toCondition.Built := by
  obtain ⟨named, -, taken⟩ := said
  have leaf := Built.of_operandSpelled taken
  cases named with
  | record => exact leaf
  | field => exact .onField _ leaf

theorem Built.join {a b : Condition} (connective : Connective) (first : a.Built)
    (second : b.Built) : (connective.join a b).Built := by
  cases connective with
  | and => exact .and first second
  | or => exact .or first second

/-- What is parsed could have been built. -/
theorem Built.of_parse {schema : Schema} {text : String} {c : Condition}
    (parsed : parse schema text = .ok c) : c.Built := by
  rcases parse_eq_ok_iff_ofText.mp parsed with ⟨-, rfl⟩ | ⟨s, said, rfl⟩
  · exact .always
  · refine Expression.toCondition_induction ?_ fun connective a b => Built.join connective
    intro clause member
    rw [← Sentence.clauses_eq] at member
    obtain ⟨part, saidPart⟩ := said.exists_spelled member
    exact .of_clauseSpelled saidPart

/-! ### Parts -/

/-- A condition occurs in another one, at any depth, in constraints on fields too. -/
inductive IsPart : Condition → Condition → Prop
  | whole (c : Condition) : IsPart c c
  | conj {node t : Condition} {terms : List Condition} (member : t ∈ terms)
      (below : IsPart node t) : IsPart node (.conj terms)
  | disj {node t : Condition} {terms : List Condition} (member : t ∈ terms)
      (below : IsPart node t) : IsPart node (.disj terms)
  | invert {node inner : Condition} (below : IsPart node inner) : IsPart node (.invert inner)
  | fields {node : Condition} {f : String × Condition} {constraints : List (String × Condition)}
      (member : f ∈ constraints) (below : IsPart node f.2) : IsPart node (.fields constraints)

/-- Nothing at the top of the condition could be simplified: terms are several, and neither
they nor what is negated would have been absorbed. -/
def IsSimplified : Condition → Prop
  | .conj terms => 2 ≤ terms.length ∧ ∀ t ∈ terms, t.IsConjTerm
  | .disj terms => 2 ≤ terms.length ∧ ∀ t ∈ terms, t.IsDisjTerm
  | .invert inner => inner.IsInverted
  | _ => True

theorem Canonical.isSimplified {c : Condition} (canonical : c.Canonical) : c.IsSimplified := by
  cases canonical with
  | always | never | comparison | fields | failure => trivial
  | conj several simple => exact ⟨several, simple⟩
  | disj several simple => exact ⟨several, simple⟩
  | invert kept => exact kept

/-- Parts of a canonical condition are canonical. -/
theorem Canonical.of_isPart {c node : Condition} (canonical : c.Canonical)
    (part : node.IsPart c) : node.Canonical := by
  induction part with
  | whole => exact canonical
  | conj member _ ih =>
    cases canonical with
    | conj _ _ parts => exact ih (parts _ member)
  | disj member _ ih =>
    cases canonical with
    | disj _ _ parts => exact ih (parts _ member)
  | invert _ ih =>
    cases canonical with
    | invert _ inner => exact ih inner
  | fields member _ ih =>
    cases canonical with
    | fields _ parts => exact ih (parts _ member)

/-! ### What programs obtain -/

/-- The conditions that a program can come by: what constructors build, what is parsed, and
what combinators make of these, in any order and any number of times. -/
inductive Obtained : Condition → Prop
  | built {c : Condition} (made : c.Built) : Obtained c
  | parsed {schema : Schema} {text : String} {c : Condition}
      (read : parse schema text = .ok c) : Obtained c
  | all {conditions : List Condition} (parts : ∀ c ∈ conditions, Obtained c) :
      Obtained (all conditions)
  | any {conditions : List Condition} (parts : ∀ c ∈ conditions, Obtained c) :
      Obtained (any conditions)
  | negate {c : Condition} (inner : Obtained c) : Obtained c.negate
  /-- The complement of a comparison that is at hand. -/
  | complement {c : Comparison} (leaf : Obtained (.comparison c)) :
      Obtained (.comparison c.complement)
  | withField {c constraint extended : Condition} {name : String} (table : Obtained c)
      (part : Obtained constraint) (made : c.withField? name constraint = some extended) :
      Obtained extended

/-- Parsing adds nothing to what can be built. -/
theorem Obtained.toBuilt {c : Condition} (obtained : c.Obtained) : c.Built := by
  induction obtained with
  | built made => exact made
  | parsed read => exact .of_parse read
  | all _ parts => exact .all parts
  | any _ parts => exact .any parts
  | negate _ inner => exact .negate inner
  | complement _ leaf => exact .negate leaf
  | withField _ _ made table part => exact .withField table part made

/-- Whatever sequence of constructors, combinators and parsing a condition comes from, none
of its parts could be simplified. -/
theorem Obtained.isSimplified_of_isPart {c node : Condition} (obtained : c.Obtained)
    (part : node.IsPart c) : node.IsSimplified :=
  (obtained.toBuilt.canonical.of_isPart part).isSimplified

/-- A parsed conjunction is spliced into another one, which is negated below a field. -/
theorem Obtained.isSimplified_of_isPart_spliced :
    ∃ c node : Condition, c.Obtained ∧ node.IsPart c ∧ node.IsSimplified ∧
      ∃ x y z, c = .fields [("n", .invert node)] ∧ node = .conj [x, y, z] := by
  let below : Comparison := ⟨.lt, .value (.int .i64 9 (by decide))⟩
  let other : Comparison := ⟨.ne, .value (.int .i64 5 (by decide))⟩
  let above := gt (.value (.int .i64 3 (by decide)))
  obtain ⟨s, said, same⟩ := Sentence.exists_ofText_of_read .empty "_ < 9 _ != 5"
    ⟨⟨.record, below⟩, [(.and, ⟨.record, other⟩)]⟩ (by decide +kernel)
  have read : parse .empty "_ < 9 _ != 5" = .ok (.conj [.comparison below, .comparison other]) := by
    refine parse_eq_ok_iff_ofText.mpr (.inr ⟨s, said, ?_⟩)
    rw [same]
    rfl
  let node := Condition.conj [.comparison below, .comparison other, above]
  have spliced : node.Obtained := by
    refine @Obtained.all [.conj [.comparison below, .comparison other], .always, above] ?_
    simp only [List.forall_mem_cons, List.not_mem_nil, false_implies, implies_true, and_true]
    exact ⟨.parsed read, .built .always, .built (.scalar rfl _)⟩
  have whole : (Condition.fields [("n", .invert node)]).Obtained :=
    .withField (.built .noFields) (.negate spliced) rfl
  have part : node.IsPart (.fields [("n", .invert node)]) :=
    .fields List.mem_cons_self (.invert (.whole node))
  exact ⟨_, node, whole, part, whole.isSimplified_of_isPart part, _, _, _, rfl, rfl⟩

end Condition

end RecordFilter
