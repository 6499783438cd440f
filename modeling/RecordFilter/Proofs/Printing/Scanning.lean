import RecordFilter.Text.Quoted

/-!
# Scanning for literals

A text is scanned from left to right for literals between single marks. A mark opens a
literal, and inside of it a mark written twice stands for one and a single mark closes it.
Whether a mark is single is known one character later, so the end of a literal is noticed
when the next character arrives or the text ends.

A quoted text is scanned as one literal with the text as its content, whatever the text is.
Only a mark right behind it could change that, and between two literals there is always some
other character: literals that are joined by plain characters are found one by one.

## Main definitions

* `Text.Scan`, with `Text.Scan.step` and `Text.Scan.run`: the scanner
* `Text.scanLiterals`: what stands outside of literals in a text, and what inside
* `Text.isPlain`: the characters that may stand outside
* `Text.Scans`: where no literal is open, characters are scanned with a certain result

## Main results

* `Text.scans_quoteDoubled`: a quoted text is one literal
* `Text.Scans.join`: what is scanned before and after plain characters
* `Text.AllScan.intercalate`: what is scanned in a row with separators
-/

namespace RecordFilter.Text

/-- Where a scan stands. -/
inductive Place where
  | outside
  /-- Inside of a literal, after some of its content. -/
  | inside (content : List Char)
  /-- After a mark inside of a literal. The mark has closed the literal unless another mark
  follows. -/
  | atMark (content : List Char)
  deriving DecidableEq, Repr

/-- A scan: where it stands, the characters outside of literals and the contents of the
literals before that place. -/
structure Scan where
  place : Place
  around : List Char
  literals : List String
  deriving DecidableEq, Repr

namespace Scan

/-- The scan of no characters. -/
def start : Scan := ⟨.outside, [], []⟩

/-- One more character is scanned. -/
def step (s : Scan) (c : Char) : Scan :=
  match s.place with
  | .outside =>
    if c = '\'' then { s with place := .inside [] } else { s with around := s.around ++ [c] }
  | .inside content =>
    if c = '\'' then { s with place := .atMark content }
    else { s with place := .inside (content ++ [c]) }
  | .atMark content =>
    if c = '\'' then { s with place := .inside (content ++ [c]) }
    else ⟨.outside, s.around ++ [c], s.literals ++ [String.ofList content]⟩

/-- Some more characters are scanned. -/
def run (s : Scan) (cs : List Char) : Scan := cs.foldl step s

/-- The characters outside of literals and the contents of literals, if the text ends here.
There are none if a literal is open. -/
def result? (s : Scan) : Option (List Char × List String) :=
  match s.place with
  | .outside => some (s.around, s.literals)
  | .inside _ => none
  | .atMark content => some (s.around, s.literals ++ [String.ofList content])

theorem run_cons (s : Scan) (c : Char) (cs : List Char) : s.run (c :: cs) = (s.step c).run cs :=
  rfl

theorem run_append (s : Scan) (cs ds : List Char) : s.run (cs ++ ds) = (s.run cs).run ds :=
  List.foldl_append

variable {s : Scan} {around : List Char} {literals : List String}

/-- Where no literal is open, a character that is no mark stands outside, and a literal that
ended just before is complete. -/
theorem step_of_result? {c : Char} (found : s.result? = some (around, literals))
    (noMark : c ≠ '\'') : s.step c = ⟨.outside, around ++ [c], literals⟩ := by
  obtain ⟨place, around, literals⟩ := s
  cases place with
  | outside =>
    cases found
    simp only [step, if_neg noMark]
  | inside content => cases found
  | atMark content =>
    cases found
    simp only [step, if_neg noMark]

theorem run_outside {cs : List Char} (noMarks : ∀ c ∈ cs, c ≠ '\'') :
    (⟨.outside, around, literals⟩ : Scan).run cs = ⟨.outside, around ++ cs, literals⟩ := by
  induction cs generalizing around with
  | nil => rw [List.append_nil]; rfl
  | cons c rest ih =>
    obtain ⟨first, later⟩ := List.forall_mem_cons.mp noMarks
    rw [run_cons, step_of_result? rfl first, ih later, List.append_assoc, List.singleton_append]

/-- After characters that are no marks, a scan stands outside. There has to be one of them,
since only it shows that a literal before has ended. -/
theorem run_of_result? {cs : List Char} (found : s.result? = some (around, literals))
    (noMarks : ∀ c ∈ cs, c ≠ '\'') (nonempty : cs ≠ []) :
    s.run cs = ⟨.outside, around ++ cs, literals⟩ := by
  obtain ⟨c, rest, rfl⟩ := List.exists_cons_of_ne_nil nonempty
  obtain ⟨first, later⟩ := List.forall_mem_cons.mp noMarks
  rw [run_cons, step_of_result? found first, run_outside later, List.append_assoc,
    List.singleton_append]

/-- Doubling the marks of a text keeps a scan inside of its literal. -/
theorem run_doubleMarks (content cs : List Char) :
    (⟨.inside content, around, literals⟩ : Scan).run (doubleMarks cs) =
      ⟨.inside (content ++ cs), around, literals⟩ := by
  induction cs generalizing content with
  | nil => rw [List.append_nil]; rfl
  | cons c rest ih =>
    have shift : content ++ c :: rest = content ++ [c] ++ rest := by
      rw [List.append_assoc, List.singleton_append]
    rw [shift, ← ih, doubleMarks]
    by_cases mark : c = '\''
    · subst mark
      rfl
    · rw [if_neg mark, run_cons]
      simp only [step, if_neg mark]

end Scan

/-- The characters of a text that stand outside of literals and the contents of its literals,
from left to right. There is no result if the text ends inside of a literal. -/
def scanLiterals (text : String) : Option (List Char × List String) :=
  (Scan.start.run text.toList).result?

/-- The characters of names, numbers, operators, keywords and lists. -/
def isPlain (c : Char) : Bool := c.isAlphanum || "_ .,-()<>=!".toList.contains c

/-- No plain character is a mark. -/
theorem ne_mark_of_isPlain {cs : List Char} (plain : cs.all isPlain = true) :
    ∀ c ∈ cs, c ≠ '\'' := by
  rintro c member rfl
  have markPlain : isPlain '\'' = true := List.all_eq_true.mp plain _ member
  revert markPlain
  decide

theorem all_isPlain_append {cs ds : List Char} (first : cs.all isPlain = true)
    (second : ds.all isPlain = true) : (cs ++ ds).all isPlain = true := by
  rw [List.all_append, first, second, Bool.and_self]

/-! ### Characters that are scanned with a result -/

/-- From where it stands outside, a scan passes over the characters `cs`, leaves no literal
open and finds the characters `around` outside of literals, all of them plain, and the given
literals. -/
def Scans (cs around : List Char) (literals : List String) : Prop :=
  around.all isPlain = true ∧ ∀ before found,
    ((⟨.outside, before, found⟩ : Scan).run cs).result? = some (before ++ around, found ++ literals)

variable {cs ds between around others : List Char} {literals more : List String}

theorem scans_plain (plain : cs.all isPlain = true) : Scans cs cs [] := by
  refine ⟨plain, ?_⟩
  intro before found
  rw [Scan.run_outside (ne_mark_of_isPlain plain), List.append_nil]
  rfl

/-- A quoted text is one literal, and the text is its content. -/
theorem scans_quoteDoubled (s : String) : Scans (quoteDoubled s).toList [] [s] := by
  refine ⟨rfl, ?_⟩
  intro before found
  have opened : (⟨.outside, before, found⟩ : Scan).step '\'' = ⟨.inside [], before, found⟩ := rfl
  rw [quoteDoubled, String.toList_ofList, List.cons_append, Scan.run_cons, opened,
    Scan.run_append, Scan.run_doubleMarks, List.nil_append, List.append_nil]
  simp only [Scan.run, Scan.step, List.foldl_cons, List.foldl_nil, if_pos, Scan.result?,
    String.ofList_toList]

/-- Plain characters before, which may be none. -/
theorem Scans.plain_append (plain : between.all isPlain = true)
    (after : Scans ds others more) : Scans (between ++ ds) (between ++ others) more := by
  obtain ⟨afterPlain, after⟩ := after
  refine ⟨all_isPlain_append plain afterPlain, ?_⟩
  intro before found
  rw [Scan.run_append, Scan.run_outside (ne_mark_of_isPlain plain), after, List.append_assoc]

/-- Plain characters keep what stands before them apart from what stands after them. -/
theorem Scans.join (first : Scans cs around literals)
    (plain : between.all isPlain = true) (nonempty : between ≠ [])
    (after : Scans ds others more) :
    Scans (cs ++ (between ++ ds)) (around ++ (between ++ others)) (literals ++ more) := by
  obtain ⟨firstPlain, first⟩ := first
  obtain ⟨afterPlain, after⟩ := after
  refine ⟨all_isPlain_append firstPlain (all_isPlain_append plain afterPlain), ?_⟩
  intro before found
  have outside := Scan.run_of_result? (first before found) (ne_mark_of_isPlain plain) nonempty
  rw [Scan.run_append, Scan.run_append, outside, after]
  simp only [List.append_assoc]

/-- Plain characters behind, of which there is at least one. -/
theorem Scans.append_plain (first : Scans cs around literals)
    (plain : between.all isPlain = true) (nonempty : between ≠ []) :
    Scans (cs ++ between) (around ++ between) literals := by
  have nothing : Scans [] [] [] := scans_plain rfl
  simpa only [List.append_nil] using first.join plain nonempty nothing

/-- Each part of a row is scanned with its own result. The literals of all of them are put
together. -/
inductive AllScan : List (List Char) → List (List Char) → List String → Prop
  | nil : AllScan [] [] []
  | cons {rows arounds : List (List Char)} {cs around : List Char} {literals more : List String}
      (first : Scans cs around literals) (later : AllScan rows arounds more) :
      AllScan (cs :: rows) (around :: arounds) (literals ++ more)

/-- The parts of a row are scanned one by one if plain characters stand between them. -/
theorem AllScan.intercalate {rows arounds : List (List Char)} (each : AllScan rows arounds literals)
    (plain : between.all isPlain = true) (nonempty : between ≠ []) :
    Scans (between.intercalate rows) (between.intercalate arounds) literals := by
  induction each with
  | nil => exact scans_plain rfl
  | cons first later ih =>
    cases later with
    | nil =>
      rw [List.intercalate_singleton, List.intercalate_singleton, List.append_nil]
      exact first
    | cons =>
      rw [List.intercalate_cons_cons, List.intercalate_cons_cons, List.append_assoc,
        List.append_assoc]
      exact first.join plain nonempty ih

/-- A text is scanned with the result that its characters have. -/
theorem Scans.scanLiterals_eq_some {text : String} (h : Scans text.toList around literals) :
    scanLiterals text = some (around, literals) :=
  h.2 [] []

-- The last two marks stand for one, so the literal is still open.
example : scanLiterals "name = 'O''" = none := by decide

end RecordFilter.Text
