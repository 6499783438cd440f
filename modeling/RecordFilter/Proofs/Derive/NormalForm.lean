import Mathlib.Data.List.Chain
import RecordFilter.Proofs.Derive.ConstantName

/-!
# Normal form of constant names

A name of ASCII is converted to one without small letters, and that one stands for itself. Neither
holds of all names. Only the letters of ASCII change their case, so the small letters of other
scripts stay. And every letter that is no capital ends a word, but the capital after it may be
there only after the conversion: there is no break in `日a`, and one in `日A`. A break that was
missed that way is made when the name is converted once more, and then nothing changes any more.

## Main definitions

* `BreaksLate`: where a low line is missing until both characters are converted

## Main results

* `constantNameFrom_eq_self_iff`: which names stand for themselves
* `isChain_constantNameFrom`: where a converted name has a break that was missed
* `constantName_of_ascii`: the normal form of a name of ASCII
* `constantName_normalForm`: which names get a normal form, and that two steps always reach it
-/

namespace RecordFilter

/-! ### Late breaks -/

/-- A new word begins with `d` right after `c` only once both are converted: `d` becomes a capital,
and `c` is a letter that does not. -/
def BreaksLate (c d : Char) : Prop :=
  Text.endsWord c = true ∧ c.isLower = false ∧ d.isLower = true

theorem not_line_breaksLate (c : Char) : ¬ BreaksLate '_' c :=
  fun late => Bool.eq_false_iff.mp Text.classes_of_line.2.2 late.1

theorem Breaks.not_breaksLate {c d : Char} (breaks : Breaks c d) : ¬ BreaksLate c d := fun late => by
  rw [BreaksLate, Text.isLower_eq_false_of_isUppercase breaks.2] at late
  cases late.2.2

/-- Where there is no break, the characters that stand for the two have one exactly if it comes
late. -/
theorem breaks_constantChar_iff {c d : Char} (unbroken : ¬ Breaks c d) :
    Breaks (constantChar c) (constantChar d) ↔ BreaksLate c d := by
  rw [Breaks, endsWord_constantChar, isUppercase_constantChar, Bool.and_eq_true, Bool.or_eq_true,
    Bool.not_eq_true', and_assoc]
  refine and_congr_right fun ends => and_congr_right fun _ => or_iff_right fun upper => ?_
  exact unbroken ⟨ends, upper⟩

/-! ### Small letters -/

/-- The small letters of a converted name are those that the name has outside of ASCII. -/
theorem filter_isLowercase_constantNameFrom (p : Char) (cs : List Char) :
    (constantNameFrom (Text.endsWord p) cs).filter Text.isLowercase =
      cs.filter fun c => Text.isLowercase c && !c.isLower := by
  induction cs generalizing p with
  | nil => rfl
  | cons c rest ih =>
    have line : (if Breaks p c then ['_'] else []).filter Text.isLowercase = [] := by
      split <;> simp [Text.classes_of_line.2.1]
    rw [constantNameFrom_cons, List.filter_append, line, List.nil_append, List.filter_cons,
      List.filter_cons, isLowercase_constantChar, ih]
    cases stays : Text.isLowercase c && !c.isLower with
    | false => rfl
    | true =>
      obtain ⟨small, noLower⟩ := Bool.and_eq_true_iff.mp stays
      have noHyphen : c ≠ '-' := by
        rintro rfl
        exact Bool.eq_false_iff.mp Text.classes_of_hyphen.2.1 small
      rw [constantChar_eq_self noHyphen (Bool.not_eq_true' _ ▸ noLower)]

/-- The name of a constant has no small letters exactly if those of the name are of ASCII. -/
theorem forall_isLowercase_constantName_iff (name : String) :
    (∀ c ∈ (constantName name).toList, Text.isLowercase c = false) ↔
      ∀ c ∈ name.toList, Text.isLowercase c = true → c.isLower = true := by
  have letters := filter_isLowercase_constantNameFrom '_' name.toList
  rw [← toList_constantName] at letters
  calc (∀ c ∈ (constantName name).toList, Text.isLowercase c = false)
      ↔ (constantName name).toList.filter Text.isLowercase = [] := by
        simp only [List.filter_eq_nil_iff, Bool.not_eq_true]
    _ ↔ name.toList.filter (fun c => Text.isLowercase c && !c.isLower) = [] := by rw [letters]
    _ ↔ _ := by simp

/-! ### Converting again -/

/-- What the conversion leaves as it is: characters that stand for themselves, with no break
between them, nor before the first of them. -/
theorem constantNameFrom_eq_self_iff (p : Char) (cs : List Char) :
    constantNameFrom (Text.endsWord p) cs = cs ↔
      (∀ c ∈ cs, constantChar c = c) ∧ (p :: cs).IsChain fun c d => ¬ Breaks c d := by
  -- the conversion remembers one character, so that character stands in front of the row
  induction cs generalizing p with
  | nil => simp [constantNameFrom]
  | cons c rest ih =>
    rw [List.isChain_cons_cons, List.forall_mem_cons]
    by_cases breaks : Breaks p c
    · rw [constantNameFrom_of_breaks breaks]
      refine iff_of_false (fun same => ?_) fun settled => settled.2.1 breaks
      obtain rfl := (List.cons.inj same).1
      exact not_breaks_line p breaks
    · rw [constantNameFrom_of_not_breaks breaks, List.cons.injEq, ih c, and_assoc,
        and_iff_right breaks]

/-- A converted name has a break exactly where one came late. The character before the name takes
part on both sides. -/
theorem isChain_constantNameFrom (p : Char) (cs : List Char) :
    ((constantChar p :: constantNameFrom (Text.endsWord p) cs).IsChain fun c d => ¬ Breaks c d) ↔
      (p :: cs).IsChain fun c d => ¬ BreaksLate c d := by
  induction cs generalizing p with
  | nil => simp [constantNameFrom]
  | cons c rest ih =>
    rw [List.isChain_cons_cons]
    by_cases breaks : Breaks p c
    · rw [constantNameFrom_of_breaks breaks, List.isChain_cons_cons, List.isChain_cons_cons, ih c,
        and_iff_right (not_breaks_line _), and_iff_right (not_line_breaks _),
        and_iff_right breaks.not_breaksLate]
    · rw [constantNameFrom_of_not_breaks breaks, List.isChain_cons_cons, ih c,
        breaks_constantChar_iff breaks]

/-- A row has no pair of neighbours of some kind exactly if each two neighbours are of another. -/
theorem isChain_not_iff {α : Type} {R : α → α → Prop} {l : List α} :
    (l.IsChain fun a b => ¬ R a b) ↔ ¬ ∃ a b, [a, b] <:+: l ∧ R a b := by
  constructor
  · rintro chain ⟨a, b, inside, related⟩
    have pair : List.IsChain (fun a b => ¬ R a b) [a, b] := List.IsChain.infix chain inside
    exact List.isChain_pair.mp pair related
  · intro unrelated
    exact (List.isChain_isInfix l).imp fun a b inside related => unrelated ⟨a, b, inside, related⟩

/-- The name of a constant stands for itself exactly if no break of the name came late. -/
theorem constantName_constantName_eq_iff (name : String) :
    constantName (constantName name) = constantName name ↔
      ¬ ∃ c d, [c, d] <:+: name.toList ∧ BreaksLate c d := by
  have settled : ∀ c ∈ constantNameFrom (Text.endsWord '_') name.toList, constantChar c = c := by
    intro c member
    rcases mem_constantNameFrom member with rfl | ⟨d, -, rfl⟩
    · rfl
    · exact constantChar_constantChar d
  have begins : ∀ c ∈ name.toList.head?, ¬ BreaksLate '_' c := fun c _ => not_line_breaksLate c
  rw [← String.toList_inj, toList_constantName, toList_constantName, constantNameFrom_eq_self_iff,
    and_iff_right settled, ← isChain_not_iff]
  calc _ ↔ ('_' :: name.toList).IsChain fun c d => ¬ BreaksLate c d :=
        isChain_constantNameFrom '_' name.toList
    _ ↔ _ := by rw [List.isChain_cons, and_iff_right begins]

/-- No break comes late in the name of a constant, since it has no small letters of ASCII. -/
theorem constantName_constantName_constantName (name : String) :
    constantName (constantName (constantName name)) = constantName (constantName name) := by
  refine (constantName_constantName_eq_iff _).mpr fun ⟨c, d, inside, late⟩ => ?_
  have member : d ∈ (constantName name).toList := inside.subset (by simp)
  rw [BreaksLate, isLower_of_mem_constantName member] at late
  cases late.2.2

/-- A name of ASCII is converted to one without small letters that stands for itself. -/
theorem constantName_of_ascii {name : String} (ascii : ∀ c ∈ name.toList, c.toNat < 128) :
    (∀ c ∈ (constantName name).toList, Text.isLowercase c = false) ∧
      constantName (constantName name) = constantName name := by
  constructor
  · exact (forall_isLowercase_constantName_iff name).mpr fun c member small =>
      (Text.classes_of_ascii (ascii c member)).2.1.symm.trans small
  · refine (constantName_constantName_eq_iff name).mpr fun ⟨c, d, inside, ends, noLower, _⟩ => ?_
    have member : c ∈ name.toList := inside.subset (by simp)
    rw [(Text.classes_of_ascii (ascii c member)).2.2, noLower] at ends
    cases ends

/-- The name of a constant has no small letters exactly if those of the name are all of ASCII. It
stands for itself exactly if the name has no small letter of ASCII right after a letter that is
neither a capital nor of ASCII. Converted once more, every name stands for itself. -/
theorem constantName_normalForm (name : String) :
    ((∀ c ∈ (constantName name).toList, Text.isLowercase c = false) ↔
      ∀ c ∈ name.toList, Text.isLowercase c = true → c.isLower = true) ∧
    (constantName (constantName name) = constantName name ↔
      ¬ ∃ c d, [c, d] <:+: name.toList ∧
        Text.isAlphabetic c = true ∧ Text.isUppercase c = false ∧ c.isLower = false ∧
          d.isLower = true) ∧
    constantName (constantName (constantName name)) = constantName (constantName name) := by
  refine ⟨forall_isLowercase_constantName_iff name, ?_,
    constantName_constantName_constantName name⟩
  simpa only [BreaksLate, Text.endsWord, Bool.and_eq_true, Bool.not_eq_true', and_assoc] using
    constantName_constantName_eq_iff name

/-- A small letter of another script stays, and a letter without case makes for a break that comes
late. -/
theorem constantName_normalForm_of_other_scripts :
    constantName "é" = "é" ∧ Text.isLowercase 'é' = true ∧
    constantName "日a" = "日A" ∧ constantName "日A" = "日_A" ∧
    (¬ ∀ name, ∀ c ∈ (constantName name).toList, Text.isLowercase c = false) ∧
    ¬ ∀ name, constantName (constantName name) = constantName name := by
  have stays : constantName "é" = "é" := by decide +kernel
  have small : Text.isLowercase 'é' = true := by decide +kernel
  have first : constantName "日a" = "日A" := by decide +kernel
  have second : constantName "日A" = "日_A" := by decide +kernel
  refine ⟨stays, small, first, second, fun capitals => ?_, fun same => ?_⟩
  · have capital := capitals "é" 'é' (by rw [stays]; decide)
    rw [small] at capital
    cases capital
  · have again := same "日a"
    rw [first, second] at again
    exact absurd again (by decide)

end RecordFilter
