import RecordFilter.Derive.ConstantName

/-!
# Names of constants, character by character

The name of a field is converted from left to right, and of the characters before only one fact is
remembered: whether the last one is a letter that is no capital. So two neighbours describe a step,
and a converted name is made of what its characters become and of the low lines put between.

## Main definitions

* `Text.endsWord`: the letters after which a capital begins a new word
* `constantChar`: the character that stands for another one
* `Breaks`: where a low line is put between two characters

## Main results

* `Text.classes_of_ascii`: the classes of letters within ASCII
* `class_constantChar`: to which classes the character belongs that stands for another one
* `constantNameFrom_cons`: one step of the conversion
* `mem_constantNameFrom`: what the name of a constant is made of
* `isLower_of_mem_constantName`: the names of constants have no small letters of ASCII
-/

namespace RecordFilter

/-! ### Letters -/

namespace Text

/-- The small letters of ASCII by their numbers. -/
theorem isLower_iff {c : Char} : c.isLower = true ↔ 97 ≤ c.toNat ∧ c.toNat ≤ 122 :=
  Bool.and_eq_true_iff.trans (and_congr decide_eq_true_iff decide_eq_true_iff)

/-- What holds of the 26 small letters of ASCII one by one holds of them all. -/
theorem forall_isLower {P : Char → Prop} (letters : ∀ n < 26, P (Char.ofNat (97 + n))) {c : Char}
    (lower : c.isLower = true) : P c := by
  have bounds := isLower_iff.mp lower
  have place : c = Char.ofNat (97 + (c.toNat - 97)) := by
    rw [Nat.add_sub_cancel' bounds.1, Char.ofNat_toNat]
  rw [place]
  exact letters _ (by omega)

/-- What holds of the 128 characters of ASCII one by one holds of them all. -/
theorem forall_ascii {P : Char → Prop} (each : ∀ n < 128, P (Char.ofNat n)) {c : Char}
    (ascii : c.toNat < 128) : P c :=
  Char.ofNat_toNat c ▸ each c.toNat ascii

/-- Letters of any script that are no capitals. A capital right after one begins a new word. -/
def endsWord (c : Char) : Bool :=
  isAlphabetic c && !isUppercase c

/-- Among the characters of ASCII only the capitals are capitals, and only the small letters are
small letters or letters without being capitals. -/
theorem classes_of_ascii {c : Char} (ascii : c.toNat < 128) :
    isUppercase c = c.isUpper ∧ isLowercase c = c.isLower ∧ endsWord c = c.isLower :=
  forall_ascii (P := fun c => isUppercase c = c.isUpper ∧ isLowercase c = c.isLower ∧
    endsWord c = c.isLower) (by decide +kernel) ascii

theorem classes_of_line :
    isUppercase '_' = false ∧ isLowercase '_' = false ∧ endsWord '_' = false :=
  classes_of_ascii (by decide)

theorem classes_of_hyphen :
    isUppercase '-' = false ∧ isLowercase '-' = false ∧ endsWord '-' = false :=
  classes_of_ascii (by decide)

theorem isUppercase_eq_false_of_isLower {c : Char} (lower : c.isLower = true) :
    isUppercase c = false := by
  have ascii : c.toNat < 128 := Nat.lt_of_le_of_lt (isLower_iff.mp lower).2 (by decide)
  rw [(classes_of_ascii ascii).1]
  exact forall_isLower (P := fun c => c.isUpper = false) (by decide) lower

theorem isLower_eq_false_of_isUppercase {c : Char} (upper : isUppercase c = true) :
    c.isLower = false := by
  cases lower : c.isLower with
  | false => rfl
  | true =>
    rw [isUppercase_eq_false_of_isLower lower] at upper
    cases upper

theorem toUpper_eq_self {c : Char} (noLower : c.isLower = false) : c.toUpper = c :=
  dif_neg fun range => by
    rw [isLower_iff.mpr range] at noLower
    cases noLower

/-- What becomes of a small letter of ASCII is a capital of ASCII. -/
theorem toUpper_of_isLower {c : Char} (lower : c.isLower = true) :
    c.toUpper.toNat < 128 ∧ c.toUpper.isUpper = true ∧ c.toUpper.isLower = false :=
  forall_isLower (P := fun c => c.toUpper.toNat < 128 ∧ c.toUpper.isUpper = true ∧
    c.toUpper.isLower = false) (by decide) lower

end Text

/-! ### Characters of the name -/

/-- The character that stands for `c` in the name of a constant. -/
def constantChar (c : Char) : Char :=
  if c = '-' then '_' else c.toUpper

theorem constantChar_eq_self {c : Char} (noHyphen : c ≠ '-') (noLower : c.isLower = false) :
    constantChar c = c :=
  (if_neg noHyphen).trans (Text.toUpper_eq_self noLower)

/-- A hyphen and the small letters of ASCII are replaced, and all else stands for itself. -/
theorem constantChar_cases (c : Char) :
    c = '-' ∨ (c.isLower = true ∧ constantChar c = c.toUpper) ∨
      (c.isLower = false ∧ constantChar c = c) := by
  by_cases hyphen : c = '-'
  · exact .inl hyphen
  · cases lower : c.isLower with
    | true => exact .inr (.inl ⟨rfl, if_neg hyphen⟩)
    | false => exact .inr (.inr ⟨rfl, constantChar_eq_self hyphen lower⟩)

theorem constantChar_constantChar (c : Char) : constantChar (constantChar c) = constantChar c := by
  rcases constantChar_cases c with rfl | ⟨lower, same⟩ | ⟨-, same⟩
  · rfl
  · rw [same]
    exact Text.forall_isLower (P := fun c => constantChar c.toUpper = c.toUpper) (by decide) lower
  · rw [same, same]

theorem isUppercase_constantChar (c : Char) :
    Text.isUppercase (constantChar c) = (Text.isUppercase c || c.isLower) := by
  rcases constantChar_cases c with rfl | ⟨lower, same⟩ | ⟨lower, same⟩
  · rw [Text.classes_of_hyphen.1]
    exact Text.classes_of_line.1
  · obtain ⟨ascii, upper, -⟩ := Text.toUpper_of_isLower lower
    rw [same, lower, Bool.or_true, (Text.classes_of_ascii ascii).1, upper]
  · rw [same, lower, Bool.or_false]

/-- A class that has the small letters of ASCII and no others of its characters loses them, and
keeps its members outside of ASCII. -/
theorem class_constantChar {f : Char → Bool} (small : ∀ {c : Char}, c.toNat < 128 → f c = c.isLower)
    (c : Char) : f (constantChar c) = (f c && !c.isLower) := by
  rcases constantChar_cases c with rfl | ⟨lower, same⟩ | ⟨lower, same⟩
  · have hyphen : f '-' = false := small (by decide)
    have line : f '_' = false := small (by decide)
    rw [hyphen, Bool.false_and]
    exact line
  · obtain ⟨ascii, -, noLower⟩ := Text.toUpper_of_isLower lower
    rw [same, lower, Bool.not_true, Bool.and_false, small ascii, noLower]
  · rw [same, lower, Bool.not_false, Bool.and_true]

theorem isLower_constantChar (c : Char) : (constantChar c).isLower = false := by
  rw [class_constantChar (f := Char.isLower) (fun _ => rfl) c, Bool.and_not_self]

theorem isLowercase_constantChar (c : Char) :
    Text.isLowercase (constantChar c) = (Text.isLowercase c && !c.isLower) :=
  class_constantChar (fun ascii => (Text.classes_of_ascii ascii).2.1) c

theorem endsWord_constantChar (c : Char) :
    Text.endsWord (constantChar c) = (Text.endsWord c && !c.isLower) :=
  class_constantChar (fun ascii => (Text.classes_of_ascii ascii).2.2) c

/-! ### Breaks between words -/

/-- A new word begins with `d` if it stands right after `c`. -/
def Breaks (c d : Char) : Prop :=
  Text.endsWord c = true ∧ Text.isUppercase d = true

instance (c d : Char) : Decidable (Breaks c d) :=
  inferInstanceAs (Decidable (_ ∧ _))

theorem not_breaks_line (c : Char) : ¬ Breaks c '_' :=
  fun breaks => Bool.eq_false_iff.mp Text.classes_of_line.1 breaks.2

theorem not_line_breaks (c : Char) : ¬ Breaks '_' c :=
  fun breaks => Bool.eq_false_iff.mp Text.classes_of_line.2.2 breaks.1

/-! ### The conversion step by step -/

/-- One step of the conversion. All it knows of the character before is whether that ends a
word. -/
theorem constantNameFrom_cons (p c : Char) (rest : List Char) :
    constantNameFrom (Text.endsWord p) (c :: rest) =
      (if Breaks p c then ['_'] else []) ++
        constantChar c :: constantNameFrom (Text.endsWord c) rest := by
  rw [constantNameFrom]
  cases upper : Text.isUppercase c with
  | true =>
    have noHyphen : c ≠ '-' := by
      rintro rfl
      exact Bool.eq_false_iff.mp Text.classes_of_hyphen.1 upper
    have same : constantChar c = c :=
      constantChar_eq_self noHyphen (Text.isLower_eq_false_of_isUppercase upper)
    have begins : Text.endsWord c = false := by
      rw [Text.endsWord, upper, Bool.not_true, Bool.and_false]
    cases ends : Text.endsWord p <;> simp [Breaks, ends, upper, same, begins]
  | false =>
    have unbroken : ¬ Breaks p c := fun breaks => by
      rw [breaks.2] at upper
      cases upper
    rw [if_neg Bool.false_ne_true, if_neg unbroken, List.nil_append]
    by_cases line : c = '_' ∨ c = '-'
    · have joins : constantChar c = '_' ∧ Text.endsWord c = false := by
        rcases line with rfl | rfl
        · exact ⟨rfl, Text.classes_of_line.2.2⟩
        · exact ⟨rfl, Text.classes_of_hyphen.2.2⟩
      rw [if_pos line, joins.1, joins.2]
    · have raised : constantChar c = c.toUpper := if_neg fun hyphen => line (.inr hyphen)
      rw [if_neg line, raised, Text.endsWord, upper, Bool.not_false, Bool.and_true]

theorem constantNameFrom_of_breaks {p c : Char} (breaks : Breaks p c) (rest : List Char) :
    constantNameFrom (Text.endsWord p) (c :: rest) =
      '_' :: constantChar c :: constantNameFrom (Text.endsWord c) rest := by
  rw [constantNameFrom_cons, if_pos breaks, List.singleton_append]

theorem constantNameFrom_of_not_breaks {p c : Char} (unbroken : ¬ Breaks p c) (rest : List Char) :
    constantNameFrom (Text.endsWord p) (c :: rest) =
      constantChar c :: constantNameFrom (Text.endsWord c) rest := by
  rw [constantNameFrom_cons, if_neg unbroken, List.nil_append]

/-- A name is converted as if it stood after a low line. -/
theorem toList_constantName (name : String) :
    (constantName name).toList = constantNameFrom (Text.endsWord '_') name.toList := by
  rw [constantName, String.toList_ofList, Text.classes_of_line.2.2]

/-- A character of a converted name is the low line of a break, or stands for a character of the
name. -/
theorem mem_constantNameFrom {p c : Char} {cs : List Char}
    (member : c ∈ constantNameFrom (Text.endsWord p) cs) :
    c = '_' ∨ ∃ d ∈ cs, c = constantChar d := by
  induction cs generalizing p with
  | nil => cases member
  | cons d rest ih =>
    rw [constantNameFrom_cons] at member
    rcases List.mem_append.mp member with line | member
    · split at line
      · exact .inl (List.mem_singleton.mp line)
      · cases line
    · rcases List.mem_cons.mp member with rfl | member
      · exact .inr ⟨d, List.mem_cons_self, rfl⟩
      · exact (ih member).imp_right fun ⟨e, later, same⟩ => ⟨e, List.mem_cons_of_mem _ later, same⟩

/-- The names of constants have no small letters of ASCII. -/
theorem isLower_of_mem_constantName {name : String} {c : Char}
    (member : c ∈ (constantName name).toList) : c.isLower = false := by
  rw [toList_constantName] at member
  rcases mem_constantNameFrom member with rfl | ⟨d, -, rfl⟩
  · rfl
  · exact isLower_constantChar d

end RecordFilter
