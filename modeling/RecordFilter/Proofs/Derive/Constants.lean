import Mathlib.Data.List.Nodup
import RecordFilter.Proofs.Derive.ConstantName
import RecordFilter.Proofs.Derive.Exposure

/-!
# Names of generated constants

Names of fields are told apart before they are turned into names of constants, and that way hyphens
and low lines meet, and small letters and capitals. A new name may also be any text. So the
constants have usable names only where the names of the exposed fields happen to give such names;
where one of them gives no identifier, the macro panics. A keyword is never among them, since the
small letters of ASCII are all gone.

## Main definitions

* `IsItemName`: the names that items can have
* `Expansion.HasUsableConstants`: the constants can stand in one block

## Main results

* `isItemName_constantName_iff`: which names of constants are names of items
* `expand_constants`: where the constants are usable, and where the macro panics
-/

namespace RecordFilter

/-! ### Items -/

/-- The words that are no names of items, in any edition of the language. -/
def keywords : List String :=
  AttributeEntry.reservedWords ++ ["crate", "gen", "self", "Self", "super"]

/-- The names that items can have. -/
def IsItemName (name : String) : Prop :=
  Text.isIdentifier name.toList = true ∧ name ∉ keywords

/-- The constants can stand in one block. -/
def Expansion.HasUsableConstants (e : Expansion) : Prop :=
  (∀ c ∈ e.constants, IsItemName c.constant) ∧ (e.constants.map FieldConstant.constant).Nodup

/-- Only the low line is both a keyword and the name of a constant. -/
theorem isItemName_constantName_iff (name : String) :
    IsItemName (constantName name) ↔
      Text.isIdentifier (constantName name).toList = true ∧ constantName name ≠ "_" := by
  have spelled : ∀ word ∈ keywords, word = "_" ∨ word.toList.any Char.isLower = true := by
    decide +kernel
  refine and_congr_right fun _ => not_congr ⟨fun member => ?_, fun same => by rw [same]; decide⟩
  refine (spelled _ member).resolve_right fun lower => ?_
  obtain ⟨c, inside, isLower⟩ := List.any_eq_true.mp lower
  rw [isLower_of_mem_constantName inside] at isLower
  cases isLower

/-- The constants for some arms are usable exactly if the names of the arms give names of items
that are distinct. -/
theorem Expansion.hasUsableConstants_ofArms (arms : List Arm) :
    (ofArms arms).HasUsableConstants ↔
      (∀ name ∈ arms.map Arm.recordName, IsItemName (constantName name)) ∧
        ((arms.map Arm.recordName).map constantName).Nodup := by
  simp [HasUsableConstants, ofArms, Function.comp_def]

/-- Unless the macro reports an error, it panics exactly if the name of an exposed field gives no
identifier. The constants are usable exactly if the names of the exposed fields all give
identifiers, the low line excepted, and no two of them give the same. -/
theorem expand_constants (d : Definition) :
    (∃ e, e.IsReported ∧ expand d = .error e) ∨
    ∃ fields, d.shape = .named fields ∧
      ((∃ name, expand d = .error (.invalidConstant name)) ↔
        ∃ name ∈ fields.filterMap FieldDefinition.exposedName?,
          Text.isIdentifier (constantName name).toList = false) ∧
      ((∃ e, expand d = .ok e ∧ e.HasUsableConstants) ↔
        (∀ name ∈ fields.filterMap FieldDefinition.exposedName?,
          Text.isIdentifier (constantName name).toList = true ∧ constantName name ≠ "_") ∧
        ((fields.filterMap FieldDefinition.exposedName?).map constantName).Nodup) := by
  refine (expand_cases d).imp_right fun ⟨fields, shape, run⟩ => ⟨fields, shape, ?_⟩
  rcases run with ⟨name, member, invalid, failed⟩ | ⟨arms, exposes, generated⟩
  · rw [failed]
    refine ⟨iff_of_true ⟨_, rfl⟩ ⟨name, member, invalid⟩, iff_of_false ?_ fun usable => ?_⟩
    · rintro ⟨e, expanded, -⟩
      cases expanded
    · rw [(usable.1 name member).1] at invalid
      cases invalid
  · rw [generated, ← exposes.names]
    refine ⟨iff_of_false ?_ ?_, ?_⟩
    · rintro ⟨name, failed⟩
      cases failed
    · rintro ⟨name, member, invalid⟩
      obtain ⟨arm, armMember, rfl⟩ := List.mem_map.mp member
      rw [exposes.identifiers arm armMember] at invalid
      cases invalid
    · simp only [← isItemName_constantName_iff, ← Expansion.hasUsableConstants_ofArms]
      exact ⟨fun ⟨e, same, usable⟩ => Except.ok.inj same ▸ usable, fun usable => ⟨_, rfl, usable⟩⟩

/-- Two names that differ in a hyphen give one constant twice, and a name with a blank none. -/
theorem expand_constants_of_hyphen_and_blank :
    let renamed (name : String) : AttributeEntry :=
      .call ⟨false, ["record"]⟩
        [.word "U8", .mark ',', .word "rename", .mark '=', .text name]
    let hyphen : Definition :=
      ⟨"Task", [], .named [⟨"a", [renamed "my-field"]⟩, ⟨"b", [renamed "my_field"]⟩]⟩
    let blank : Definition := ⟨"Task", [], .named [⟨"due", [renamed "due date"]⟩]⟩
    (∃ e, expand hyphen = .ok e ∧
      e.constants = [⟨"MY_FIELD", "my-field"⟩, ⟨"MY_FIELD", "my_field"⟩]) ∧
    expand blank = .error (.invalidConstant "DUE DATE") ∧
    ¬ ∀ d : Definition, (∃ e, e.IsReported ∧ expand d = .error e) ∨
      ∃ e, expand d = .ok e ∧ e.HasUsableConstants := by
  intro renamed hyphen blank
  have twice : expand hyphen = .ok (.ofArms [⟨"my-field", "a", .u8⟩, ⟨"my_field", "b", .u8⟩]) := by
    decide +kernel
  refine ⟨⟨_, twice, by decide +kernel⟩, by decide +kernel, fun usable => ?_⟩
  rcases usable hyphen with ⟨e, -, failed⟩ | ⟨e, expanded, -, distinct⟩
  · rw [twice] at failed
    cases failed
  · rw [twice] at expanded
    cases expanded
    exact absurd distinct (by decide +kernel)

end RecordFilter
