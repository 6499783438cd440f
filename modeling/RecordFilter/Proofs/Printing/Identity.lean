import Mathlib.Data.List.Chain
import RecordFilter.Proofs.Printing.Decoding
import RecordFilter.Proofs.Printing.Literals

/-!
# The text of a parsed expression tells which one it is

Two trees that are parsed with one schema and have the same text are the same tree. From the
text its fragments are read off, since no two comparisons stand side by side and a
comparison shows where it ends. The fragments are only one formula. And the formula, with the
clauses put back for their texts, is the tree: where the tree has a node with several terms,
the formula joins them from left to right, and so did the parser.

## Main definitions

* `Fragment.IsWritten`: the fragments that trees of clauses are printed with
* `Formula.toCondition`: the condition that a formula stands for
* `Formula.Restores`: a row is read as a formula that stands for a tree

## Main results

* `Fragment.eq_of_chars_eq`: the text of a row tells which row it is
* `Condition.OfClauses.restores_fragments`: the fragments of a tree are read as the tree
* `eq_of_parse_of_print_eq`: the text of a parsed expression tells which one it is
-/

namespace RecordFilter

open Dialect (expression)
open Lexeme (IsBoundary)

variable {schema : Schema}

/-! ### From texts to fragments -/

/-- The text of a clause begins with a name, and there is a blank in it. -/
theorem Clause.Written.exists_toList_eq_cons {c : Clause} {text : String}
    (written : c.Written schema) (printed : c.print = .ok text) :
    ' ' ∈ text.toList ∧ ∃ d more, text.toList = d :: more ∧ d ∉ ['(', ')', ' '] := by
  obtain ⟨right, -, shape⟩ := Clause.exists_toList_print printed
  obtain ⟨lexemes, said, sourced⟩ := written
  obtain @⟨target, op, operand, _, _, _, named, -, -⟩ := said
  obtain rfl := named.eq_word
  obtain ⟨source, spelled⟩ := sourced _ List.mem_cons_self
  refine ⟨by rw [shape]; simp, ?_⟩
  dsimp only at shape
  generalize target.name?.getD recordName = name at spelled shape
  cases spelled with
  | @word d more start =>
    rw [String.toList_ofList] at shape
    refine ⟨d, _, shape, ?_⟩
    intro mark
    simp only [List.mem_cons, List.not_mem_nil, or_false] at mark
    rcases mark with rfl | rfl | rfl <;> exact absurd start (by decide)

namespace Fragment

/-- The fragment is a parenthesis or a connective. -/
def IsMark (f : Fragment) : Prop := f ∈ [opening, closing, and, or]

/-- The fragment is a parenthesis, a connective, or the text of a written clause. -/
inductive IsWritten (schema : Schema) : Fragment → Prop
  | atom {c : Clause} {text : String} (written : c.Written schema)
      (printed : c.print = .ok text) : IsWritten schema (.atom text)
  | mark {f : Fragment} (mark : f.IsMark) : IsWritten schema f

/-- No two comparisons stand side by side. -/
def Apart (f g : Fragment) : Prop := f.IsMark ∨ g.IsMark

variable {f g : Fragment} {fs gs : List Fragment} {rest otherRest : List Char}

theorem isMark_opening : opening.IsMark := by simp [IsMark]

theorem isMark_closing : closing.IsMark := by simp [IsMark]

theorem isMark_fragment (connective : Connective) : connective.fragment.IsMark := by
  cases connective <;> simp [IsMark, Connective.fragment]

theorem chars_cons (f : Fragment) (fs : List Fragment) :
    chars expression (f :: fs) = (f.text expression).toList ++ chars expression fs :=
  List.flatMap_cons

/-- Parentheses and connectives begin with one of three characters. -/
theorem IsMark.exists_toList_eq_cons (mark : f.IsMark) :
    ∃ d more, (f.text expression).toList = d :: more ∧ d ∈ ['(', ')', ' '] := by
  simp only [IsMark, List.mem_cons, List.not_mem_nil, or_false] at mark
  rcases mark with rfl | rfl | rfl | rfl <;> exact ⟨_, _, rfl, by decide⟩

/-- A clause never has the text of a parenthesis or a connective in front. -/
theorem ne_of_isMark {c : Clause} {text : String} (written : c.Written schema)
    (printed : c.print = .ok text) (mark : g.IsMark) :
    text.toList ++ rest ≠ (g.text expression).toList ++ otherRest := by
  obtain ⟨-, d, more, shape, noMark⟩ := written.exists_toList_eq_cons printed
  obtain ⟨e, others, markShape, isMark⟩ := mark.exists_toList_eq_cons
  rw [shape, markShape]
  intro same
  rw [(List.cons.inj same).1] at noMark
  exact noMark isMark

/-- Parentheses and connectives are told apart. -/
theorem eq_of_isMark (mark : f.IsMark) (otherMark : g.IsMark)
    (same : (f.text expression).toList ++ rest = (g.text expression).toList ++ otherRest) :
    f = g ∧ rest = otherRest := by
  simp only [IsMark, List.mem_cons, List.not_mem_nil, or_false] at mark otherMark
  rcases mark with rfl | rfl | rfl | rfl <;> rcases otherMark with rfl | rfl | rfl | rfl <;>
    simp_all [text]

/-- Fragments are told apart where behind a comparison there is a boundary. -/
theorem eq_of_text_eq (written : f.IsWritten schema) (boundary : f.IsMark ∨ IsBoundary rest)
    (otherWritten : g.IsWritten schema) (otherBoundary : g.IsMark ∨ IsBoundary otherRest)
    (same : (f.text expression).toList ++ rest = (g.text expression).toList ++ otherRest) :
    f = g ∧ rest = otherRest := by
  have noMark (text : String) : ¬ (atom text).IsMark := by simp [IsMark]
  cases written with
  | atom clause printed =>
    cases otherWritten with
    | atom otherClause otherPrinted =>
      obtain ⟨rfl, ends⟩ := clause.eq_of_printed printed (boundary.resolve_left (noMark _))
        otherClause otherPrinted (otherBoundary.resolve_left (noMark _)) same
      rw [printed] at otherPrinted
      cases otherPrinted
      exact ⟨rfl, ends⟩
    | mark mark => exact absurd same (ne_of_isMark clause printed mark)
  | mark mark =>
    cases otherWritten with
    | atom otherClause otherPrinted =>
      exact absurd same.symm (ne_of_isMark otherClause otherPrinted mark)
    | mark otherMark => exact eq_of_isMark mark otherMark same

/-- Behind a comparison there is a boundary. -/
theorem isBoundary_chars (apart : List.IsChain Apart (f :: fs)) :
    f.IsMark ∨ IsBoundary (chars expression fs) := by
  cases fs with
  | nil => exact .inr Lexeme.isBoundary_nil
  | cons g rest =>
    rcases (List.isChain_cons_cons.mp apart).1 with mark | mark
    · exact .inl mark
    · obtain ⟨d, more, shape, isMark⟩ := mark.exists_toList_eq_cons
      rw [chars_cons, shape, List.cons_append]
      refine .inr (Lexeme.isBoundary_cons ?_)
      simp only [List.mem_cons, List.not_mem_nil, or_false] at isMark ⊢
      rcases isMark with rfl | rfl | rfl <;> simp

/-- No fragment is empty. -/
theorem IsWritten.text_ne_nil (written : f.IsWritten schema) :
    (f.text expression).toList ≠ [] := by
  cases written with
  | atom clause printed =>
    obtain ⟨-, d, more, shape, -⟩ := clause.exists_toList_eq_cons printed
    rw [text, shape]
    exact List.cons_ne_nil d more
  | mark mark =>
    obtain ⟨d, more, shape, -⟩ := mark.exists_toList_eq_cons
    rw [shape]
    exact List.cons_ne_nil d more

/-- A parenthesis or a connective keeps the rows before and after it apart. -/
theorem isChain_append (before : List.IsChain Apart fs) (mark : g.IsMark)
    (after : List.IsChain Apart gs) : List.IsChain Apart (fs ++ g :: gs) := by
  refine List.isChain_append.mpr ⟨before, ?_, ?_⟩
  · exact List.isChain_cons.mpr ⟨fun _ _ => .inl mark, after⟩
  · rintro _ _ _ ⟨rfl⟩
    exact .inr mark

/-- The text of a row tells which row it is. -/
theorem eq_of_chars_eq (written : ∀ f ∈ fs, f.IsWritten schema)
    (apart : List.IsChain Apart fs) (otherWritten : ∀ g ∈ gs, g.IsWritten schema)
    (otherApart : List.IsChain Apart gs)
    (same : chars expression fs = chars expression gs) : fs = gs := by
  induction fs generalizing gs with
  | nil =>
    cases gs with
    | nil => rfl
    | cons g others =>
      rw [chars_cons] at same
      have empty := (List.append_eq_nil_iff.mp same.symm).1
      exact absurd empty (otherWritten g List.mem_cons_self).text_ne_nil
  | cons f rest ih =>
    cases gs with
    | nil =>
      rw [chars_cons] at same
      have empty := (List.append_eq_nil_iff.mp same).1
      exact absurd empty (written f List.mem_cons_self).text_ne_nil
    | cons g others =>
      -- the first fragments are the same and end at the same place, so the rests go together
      obtain ⟨writtenFirst, writtenLater⟩ := List.forall_mem_cons.mp written
      obtain ⟨otherFirst, otherLater⟩ := List.forall_mem_cons.mp otherWritten
      rw [chars_cons, chars_cons] at same
      obtain ⟨rfl, tail⟩ := eq_of_text_eq writtenFirst (isBoundary_chars apart) otherFirst
        (isBoundary_chars otherApart) same
      rw [ih writtenLater apart.tail otherLater otherApart.tail tail]

end Fragment

/-! ### From fragments to trees -/

namespace Formula

/-- In a row that is a formula, no two comparisons stand side by side. -/
theorem Reads.isChain {level : Level} {fs : List Fragment} {φ : Formula}
    (reads : Reads level fs φ) : List.IsChain Fragment.Apart fs := by
  have enclosed {fs before : List Fragment} (outer : List.IsChain Fragment.Apart before)
      (inner : List.IsChain Fragment.Apart fs) :
      List.IsChain Fragment.Apart (before ++ Fragment.enclose fs) :=
    Fragment.isChain_append outer Fragment.isMark_opening
      (Fragment.isChain_append inner Fragment.isMark_closing .nil)
  induction reads with
  | constant => exact .singleton _
  | atom => exact .singleton _
  | group _ ih => exact enclosed .nil ih
  | negation _ ih => exact enclosed (.singleton _) ih
  | single _ ih => exact ih
  | @join connective _ _ _ _ _ _ before last =>
    exact Fragment.isChain_append before (Fragment.isMark_fragment connective) last

/-- The condition that a formula stands for, where `leaf` puts back the comparisons. -/
def toCondition (leaf : String → Condition) : Formula → Condition
  | constant b => if b then .always else .never
  | atom text => leaf text
  | joined connective left right =>
    connective.join (left.toCondition leaf) (right.toCondition leaf)
  | negated inner => (inner.toCondition leaf).negate

/-- The row can be read, as a formula that stands for the condition, and is made of what
trees of written clauses are printed with. -/
def Restores (schema : Schema) (leaf : String → Condition) (level : Level) (fs : List Fragment)
    (c : Condition) : Prop :=
  (∃ φ, Reads level fs φ ∧ φ.toCondition leaf = c) ∧ ∀ f ∈ fs, f.IsWritten schema

variable {leaf : String → Condition} {level : Level} {fs gs : List Fragment} {c d : Condition}

theorem Restores.of_operand (h : Restores schema leaf .operand fs c) :
    Restores schema leaf level fs c := by
  obtain ⟨⟨φ, reads, same⟩, written⟩ := h
  exact ⟨⟨φ, reads.of_operand, same⟩, written⟩

theorem Restores.of_conj (h : Restores schema leaf .conj fs c) :
    Restores schema leaf .disj fs c := by
  obtain ⟨⟨φ, reads, same⟩, written⟩ := h
  exact ⟨⟨φ, reads.of_conj, same⟩, written⟩

theorem Restores.enclose (h : Restores schema leaf .disj fs c) :
    Restores schema leaf .operand (Fragment.enclose fs) c := by
  obtain ⟨⟨φ, reads, same⟩, written⟩ := h
  refine ⟨⟨φ, .group reads, same⟩, ?_⟩
  intro f member
  simp only [Fragment.enclose, List.mem_append, List.mem_cons, List.not_mem_nil, or_false]
    at member
  rcases member with (rfl | inner) | rfl
  · exact .mark Fragment.isMark_opening
  · exact written f inner
  · exact .mark Fragment.isMark_closing

/-- One more operand is joined to what stands before it. -/
theorem Restores.join {connective : Connective}
    (before : Restores schema leaf connective.level fs c)
    (last : Restores schema leaf .operand gs d) :
    Restores schema leaf connective.level (fs ++ connective.fragment :: gs)
      (connective.join c d) := by
  obtain ⟨⟨φ, reads, rfl⟩, written⟩ := before
  obtain ⟨⟨ψ, lastReads, rfl⟩, lastWritten⟩ := last
  refine ⟨⟨.joined connective φ ψ, .join reads lastReads.of_operand, rfl⟩, ?_⟩
  rw [List.forall_mem_append, List.forall_mem_cons]
  exact ⟨written, .mark (Fragment.isMark_fragment connective), lastWritten⟩

/-- Rows with a connective between them restore what joining from left to right makes. -/
theorem restores_intercalate {connective : Connective} {rows : List (List Fragment)}
    {terms : List Condition} (first : Restores schema leaf connective.level fs c)
    (later : List.Forall₂ (Restores schema leaf .operand) rows terms) :
    Restores schema leaf connective.level ([connective.fragment].intercalate (fs :: rows))
      (terms.foldl connective.join c) := by
  induction later generalizing fs c with
  | nil =>
    rw [List.intercalate_singleton]
    exact first
  | @cons row t rows terms second _ ih =>
    have merged : [connective.fragment].intercalate (fs :: row :: rows) =
        [connective.fragment].intercalate ((fs ++ connective.fragment :: row) :: rows) := by
      cases rows <;> simp [List.intercalate_cons_cons]
    rw [merged, List.foldl_cons]
    exact ih (first.join second)

end Formula

open Formula (Restores)

variable {leaf : String → Condition} {fs : List Fragment} {c : Condition}

/-- The texts of written clauses are mapped to their conditions. -/
def IsLeafMap (schema : Schema) (leaf : String → Condition) : Prop :=
  ∀ (clause : Clause) (text : String), clause.Written schema → clause.print = .ok text →
    leaf text = clause.toCondition

/-- A clause restores its condition, in parentheses or without them. -/
theorem Clause.Written.restores {clause : Clause} {text : String}
    (written : clause.Written schema) (printed : clause.print = .ok text)
    (leaves : leaf text = clause.toCondition) {inside : Surrounding}
    (row : clause.toCondition.fragments expression none inside = .ok fs) :
    Restores schema leaf .operand fs clause.toCondition := by
  have atom : Restores schema leaf .operand [.atom text] clause.toCondition := by
    refine ⟨⟨.atom text, .atom text, leaves⟩, ?_⟩
    intro f member
    rw [List.mem_singleton.mp member]
    exact .atom written printed
  rw [Clause.fragments_toCondition printed] at row
  cases row
  split
  · exact atom.of_operand.enclose
  · exact atom

namespace Condition

/-- The terms of a node are printed one by one, with its connective between them. Inside of
another node it is in parentheses. -/
theorem exists_rows_of_node {connective : Connective} {terms : List Condition}
    {inside : Surrounding}
    (row : (connective.node terms).fragments expression none inside = .ok fs) :
    ∃ rows, terms.mapM (fragments expression none connective.surrounding) = .ok rows ∧
      (inside = .top → fs = [connective.fragment].intercalate rows) ∧
      ∀ other : Connective, inside = other.surrounding → other ≠ connective →
        fs = Fragment.enclose ([connective.fragment].intercalate rows) := by
  rw [fragments_node] at row
  obtain ⟨rows, printed, rfl⟩ := map_eq_ok_iff.mp row
  refine ⟨rows, printed, ?_, ?_⟩
  · rintro rfl
    cases connective <;> rfl
  · rintro other rfl distinct
    have clashes : other.surrounding = connective.clashing := by
      cases other <;> cases connective <;> first | rfl | exact absurd rfl distinct
    exact if_pos clashes

/-- A term of a connective is no node of it. -/
theorem ne_of_isTerm_node {connective other : Connective} {terms : List Condition}
    (simple : other.IsTerm (connective.node terms)) : other ≠ connective := by
  rintro rfl
  cases other <;> cases simple

/-- The fragments of a tree of written clauses restore the tree. As a term of a node they are an
operand, either a single comparison or a row in parentheses. -/
theorem OfClauses.restores_fragments (tree : c.OfClauses schema)
    (leaves : IsLeafMap schema leaf) :
    (∀ fs, c.fragments expression none .top = .ok fs → Restores schema leaf .disj fs c) ∧
      ∀ connective : Connective, connective.IsTerm c → ∀ fs,
        c.fragments expression none connective.surrounding = .ok fs →
          Restores schema leaf .operand fs c := by
  induction tree with
  | @clause clause written =>
    obtain ⟨text, printed⟩ := clause.exists_print
    have same := leaves clause text written printed
    refine ⟨fun fs row => ?_, fun connective _ fs row => ?_⟩
    · exact (written.restores printed same row).of_operand
    · exact written.restores printed same row
  | @node connective terms several simple _ ih =>
    have body {rows : List (List Fragment)}
        (printed : terms.mapM (fragments expression none connective.surrounding) = .ok rows) :
        Restores schema leaf connective.level ([connective.fragment].intercalate rows)
          (connective.node terms) := by
      have each := forall₂_of_mapM
        (fun t member row printed => (ih t member).2 connective (simple t member) row printed)
        printed
      cases each with
      | nil => cases several
      | @cons row t rows terms first later =>
        cases later with
        | nil => simp at several
        | @cons second u others more next rest =>
          obtain ⟨simpleFirst, simpleLater⟩ := List.forall_mem_cons.mp simple
          rw [← Connective.foldl_join simpleFirst simpleLater]
          exact Formula.restores_intercalate first.of_operand (.cons next rest)
    have whole {rows : List (List Fragment)}
        (printed : terms.mapM (fragments expression none connective.surrounding) = .ok rows) :
        Restores schema leaf .disj ([connective.fragment].intercalate rows)
          (connective.node terms) := by
      have restored := body printed
      cases connective with
      | and => exact restored.of_conj
      | or => exact restored
    refine ⟨fun fs row => ?_, fun other isTerm fs row => ?_⟩
    · obtain ⟨rows, printed, top, -⟩ := exists_rows_of_node row
      rw [top rfl]
      exact whole printed
    · obtain ⟨rows, printed, -, within⟩ := exists_rows_of_node row
      rw [within other rfl (ne_of_isTerm_node isTerm)]
      exact (whole printed).enclose

end Condition

/-! ### Parsed expressions -/

/-- Comparisons can be put back for their texts, since different clauses have different
texts. -/
theorem exists_isLeafMap (schema : Schema) : ∃ leaf, IsLeafMap schema leaf := by
  classical
  let leaf (text : String) : Condition :=
    if found : ∃ clause : Clause, clause.Written schema ∧ clause.print = .ok text then
      found.choose.toCondition
    else .always
  refine ⟨leaf, ?_⟩
  intro clause text written printed
  have found : ∃ clause : Clause, clause.Written schema ∧ clause.print = .ok text :=
    ⟨clause, written, printed⟩
  obtain ⟨chosenWritten, chosenPrinted⟩ := found.choose_spec
  have same := (chosenWritten.eq_of_printed chosenPrinted Lexeme.isBoundary_nil written printed
    Lexeme.isBoundary_nil rfl).1
  simp only [leaf, dif_pos found, same]

/-- The text of a tree is not that of the condition that always holds, which has no blank. -/
theorem chars_ne_of_isWritten (written : ∀ f ∈ fs, f.IsWritten schema) :
    Fragment.chars expression fs ≠ "TRUE".toList := by
  cases fs with
  | nil => simp [Fragment.chars]
  | cons f rest =>
    rw [Fragment.chars_cons]
    intro same
    cases written f List.mem_cons_self with
    | atom clause printed =>
      obtain ⟨blank, -⟩ := clause.exists_toList_eq_cons printed
      have member : ' ' ∈ "TRUE".toList := same ▸ List.mem_append_left _ blank
      exact absurd member (by decide)
    | mark mark =>
      obtain ⟨d, more, shape, isMark⟩ := mark.exists_toList_eq_cons
      rw [shape] at same
      rw [(List.cons.inj same).1] at isMark
      exact absurd isMark (by decide)

/-- The characters of a printed tree. -/
theorem Condition.exists_chars_of_print {printed : String}
    (shown : c.print expression = .ok printed) :
    ∃ fs, c.fragments expression none .top = .ok fs ∧
      printed.toList = Fragment.chars expression fs := by
  obtain ⟨fs, row, rfl⟩ := exists_fragments_of_print shown
  exact ⟨fs, row, Fragment.toList_join expression fs⟩

/-- Two expressions that are parsed with one schema and have the same text are the same
tree. -/
theorem eq_of_parse_of_print_eq {text otherText printed : String} {m other : Condition}
    (parsed : parse schema text = .ok m) (otherParsed : parse schema otherText = .ok other)
    (shown : m.print .expression = .ok printed)
    (otherShown : other.print .expression = .ok printed) : m = other := by
  obtain ⟨leaf, leaves⟩ := exists_isLeafMap schema
  obtain ⟨fs, row, whole⟩ := Condition.exists_chars_of_print shown
  obtain ⟨gs, otherRow, otherWhole⟩ := Condition.exists_chars_of_print otherShown
  rw [whole] at otherWhole
  rcases Condition.OfClauses.of_parse parsed with rfl | tree
  · rcases Condition.OfClauses.of_parse otherParsed with rfl | otherTree
    · rfl
    · cases row
      obtain ⟨-, written⟩ := (otherTree.restores_fragments leaves).1 gs otherRow
      exact absurd otherWhole.symm (chars_ne_of_isWritten written)
  · obtain ⟨⟨φ, reads, restored⟩, written⟩ := (tree.restores_fragments leaves).1 fs row
    rcases Condition.OfClauses.of_parse otherParsed with rfl | otherTree
    · cases otherRow
      exact absurd otherWhole (chars_ne_of_isWritten written)
    · obtain ⟨⟨ψ, otherReads, otherRestored⟩, otherWritten⟩ :=
        (otherTree.restores_fragments leaves).1 gs otherRow
      -- one text is one row, one row is one formula, and one formula is one tree
      obtain rfl := Fragment.eq_of_chars_eq written reads.isChain otherWritten otherReads.isChain
        otherWhole
      obtain rfl := reads.unique otherReads
      rw [← restored, otherRestored]

/-- Two spellings of one tree, with a list, a negative zero, a parenthesis in a pattern and a
clause that is joined as the one before it. -/
theorem eq_of_parse_of_print_eq_mixed :
    ∃ schema m other,
      parse schema "a = 1.50 OR b IN (1, +2) s MATCH \"(\" AND _ > -0.0" = .ok m ∧
      parse schema "a=1.5,or b in(1 2) OR s match \"(\" And _>-0.00" = .ok other ∧
      m.print .expression =
        .ok "((a = 1.5) OR (b IN [1 2]) OR (s MATCH \"(\")) AND _ > -0.0" ∧
      other.print .expression =
        .ok "((a = 1.5) OR (b IN [1 2]) OR (s MATCH \"(\")) AND _ > -0.0" ∧
      m = other := by
  let schema := ((Schema.empty.withField "a" .double).withField "b" (.int .u8)).withField "s" .text
  let members : ValueSet := ⟨[.int .u8 1 (by decide), .int .u8 2 (by decide)]⟩
  let sentence : Expression :=
    ⟨⟨.field "a" .double, ⟨.eq, .value (.double ⟨false, 4609434218613702656, by decide⟩)⟩⟩,
      [(.or, ⟨.field "b" (.int .u8), ⟨.isIn, .set members⟩⟩),
        (.or, ⟨.field "s" .text, ⟨.isMatch, .pattern ⟨"("⟩⟩⟩),
        (.and, ⟨.record, ⟨.gt, .value (.double ⟨true, 0, by decide⟩)⟩⟩)]⟩
  have parsed : parse schema "a = 1.50 OR b IN (1, +2) s MATCH \"(\" AND _ > -0.0" =
      .ok sentence.toCondition :=
    parse_eq_ok_of_read _ _ _ (by decide +kernel)
  have otherParsed : parse schema "a=1.5,or b in(1 2) OR s match \"(\" And _>-0.00" =
      .ok sentence.toCondition :=
    parse_eq_ok_of_read _ _ _ (by decide +kernel)
  have shown : sentence.toCondition.print .expression =
      .ok "((a = 1.5) OR (b IN [1 2]) OR (s MATCH \"(\")) AND _ > -0.0" := by
    decide +kernel
  exact ⟨schema, _, _, parsed, otherParsed, shown, shown,
    eq_of_parse_of_print_eq parsed otherParsed shown shown⟩

end RecordFilter
