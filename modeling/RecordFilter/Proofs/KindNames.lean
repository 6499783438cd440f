import Mathlib.Data.List.Basic
import RecordFilter.Derive.FieldAttribute

/-!
# Names of kinds

The names of kinds stand in three tables: those that are read in any case, those of attributes, and
those of documents, where case counts. All three have one list of spellings for each kind, in
lowercase. So a name that is read in any case is read in attributes as the same kind, and in
documents too unless it has a capital of ASCII.

## Main definitions

* `Kind.spellings`: the name of a kind and its aliases

## Main results

* `Kind.ofName?_eq_some_iff`, `FieldKind.ofName?_eq_some_iff`,
  `Kind.ofDocumentName?_eq_some_iff`: what each table reads
* `kind_names_agree`: how the tables agree
-/

namespace RecordFilter

/-! ### Capitals -/

namespace Text

theorem toLower_eq_self_iff (c : Char) : c.toLower = c ↔ c.isUpper = false := by
  have upper : c.isUpper = true ↔ c.val ≥ 65 ∧ c.val ≤ 90 := decide_eq_true_iff
  rw [← Bool.not_eq_true, upper]
  unfold Char.toLower
  split
  · next capital =>
    refine iff_of_false (fun same => ?_) (not_not_intro capital)
    have moved := congrArg Char.val same
    simp at moved
  · next noCapital => exact iff_of_true rfl noCapital

/-- A text without capitals of ASCII is its own lowercase. -/
theorem toLower_eq_self_iff_any (s : String) :
    s.toLower = s ↔ s.toList.any Char.isUpper = false := by
  have pointwise := List.map_inj_left (l := s.toList) (f := Char.toLower) (g := id)
  rw [List.map_id] at pointwise
  change s.map Char.toLower = s ↔ _
  rw [← String.toList_inj, String.toList_map, pointwise, List.any_eq_false]
  simp only [id, toLower_eq_self_iff, Bool.not_eq_true]

end Text

/-! ### Tables -/

namespace Kind

/-- The spellings of a kind, in lowercase, the canonical one first. -/
def spellings (k : Kind) : List String := k.name :: k.aliases

/-- Spellings are in lowercase, and both tables read them as the kind that they spell. -/
theorem read_spellings (k : Kind) : ∀ s ∈ k.spellings,
    s.toLower = s ∧ ofName? s = some k ∧ ofDocumentName? s = some k := by
  simp only [ofDocumentName?_eq]
  have table : ∀ k ∈ all, ∀ s ∈ k.spellings, s.toLower = s ∧ ofName? s = some k ∧
      (all.find? fun k => s == k.name || k.aliases.contains s) = some k := by
    decide +kernel
  exact table k k.mem_all

/-- In any case, what the lowercase of a name spells is read. -/
theorem ofName?_eq_some_iff {s : String} {k : Kind} :
    ofName? s = some k ↔ s.toLower ∈ k.spellings := by
  constructor
  · intro read
    unfold ofName? at read
    split at read <;> cases read <;> simp_all [spellings, name, aliases, IntKind.name]
  · intro spelled
    obtain ⟨lower, read, -⟩ := read_spellings k _ spelled
    rw [ofName?, lower] at read
    exact read

/-- In documents, what a name spells is read. -/
theorem ofDocumentName?_eq_some_iff {s : String} {k : Kind} :
    ofDocumentName? s = some k ↔ s ∈ k.spellings := by
  refine ⟨fun read => ?_, fun spelled => (read_spellings k s spelled).2.2⟩
  rw [ofDocumentName?_eq] at read
  have found := List.find?_some read
  simpa [spellings] using found

end Kind

namespace FieldKind

/-- The kinds of fields are the kinds of values. -/
theorem exists_toKind_eq (k : Kind) : ∃ f : FieldKind, f.toKind = k := by
  cases k with
  | int k => cases k with
    | i8 => exact ⟨i8, rfl⟩
    | i16 => exact ⟨i16, rfl⟩
    | i32 => exact ⟨i32, rfl⟩
    | i64 => exact ⟨i64, rfl⟩
    | u8 => exact ⟨u8, rfl⟩
    | u16 => exact ⟨u16, rfl⟩
    | u32 => exact ⟨u32, rfl⟩
    | u64 => exact ⟨u64, rfl⟩
  | single => exact ⟨f32, rfl⟩
  | double => exact ⟨f64, rfl⟩
  | bool => exact ⟨bool, rfl⟩
  | text => exact ⟨string, rfl⟩

/-- The constructor of a kind is called as the kind is, with a capital. -/
theorem variant_eq (k : FieldKind) : k.variant = k.toKind.name.capitalize := by
  cases k <;> decide +kernel

/-- In attributes, what the lowercase of a name spells is read. -/
theorem ofName?_eq_some_iff {s : String} {f : FieldKind} :
    ofName? s = some f ↔ s.toLower ∈ f.toKind.spellings := by
  have sound : ∀ entry ∈ table, entry.1 ∈ entry.2.toKind.spellings := by decide
  have complete : ∀ t ∈ f.toKind.spellings, table.lookup t = some f := by
    cases f <;> decide
  refine ⟨fun read => ?_, complete s.toLower⟩
  obtain ⟨before, after, whole, -⟩ := List.lookup_eq_some_iff.mp read
  exact sound (s.toLower, f) (by simp [whole])

end FieldKind

/-- A name that is read in any case as a kind is read in attributes as the kind of fields with the
same constructor, and no other name is. A document reads the names without capitals of ASCII among
them, as the same kinds. All three read the canonical name of a kind as that kind. -/
theorem kind_names_agree (s : String) (k : Kind) :
    (Kind.ofName? s = some k ↔ ∃ f, FieldKind.ofName? s = some f ∧ f.toKind = k ∧
      f.variant = k.name.capitalize) ∧
    (Kind.ofDocumentName? s = some k ↔
      Kind.ofName? s = some k ∧ s.toList.any Char.isUpper = false) ∧
    Kind.ofName? k.name = some k ∧ Kind.ofDocumentName? k.name = some k ∧
    ∃ f, FieldKind.ofName? k.name = some f ∧ f.toKind = k ∧ f.variant = k.name.capitalize := by
  have attributes (t : String) : Kind.ofName? t = some k ↔
      ∃ f, FieldKind.ofName? t = some f ∧ f.toKind = k ∧ f.variant = k.name.capitalize := by
    simp only [Kind.ofName?_eq_some_iff, FieldKind.ofName?_eq_some_iff]
    constructor
    · intro spelled
      obtain ⟨f, rfl⟩ := FieldKind.exists_toKind_eq k
      exact ⟨f, spelled, rfl, f.variant_eq⟩
    · rintro ⟨f, spelled, rfl, -⟩
      exact spelled
  obtain ⟨-, read, readInDocument⟩ := k.read_spellings k.name List.mem_cons_self
  refine ⟨attributes s, ?_, read, readInDocument, (attributes k.name).mp read⟩
  rw [Kind.ofDocumentName?_eq_some_iff, Kind.ofName?_eq_some_iff, ← Text.toLower_eq_self_iff_any]
  constructor
  · intro spelled
    have lower := (k.read_spellings s spelled).1
    exact ⟨lower.symm ▸ spelled, lower⟩
  · rintro ⟨spelled, lower⟩
    exact lower ▸ spelled

end RecordFilter
