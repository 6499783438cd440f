import Mathlib.Data.List.Nodup
import RecordFilter.Proofs.Derive.Exposure
import RecordFilter.Proofs.KindNames
import RecordFilter.Proofs.NameTable

/-!
# Accessors and schemas agree

The constants, the accessor and the schema that are generated for a structure are made in one
pass over its fields, and hold the same names in the same order. No name stands twice, so the
first arm for a name is the only one, and the schema keeps every entry. What the accessor answers
is then what the schema describes, whatever the fields are converted from.

## Main definitions

* `Kind.Primitive`, `Kind.toValue`: the members of a kind as values
* `Kind.typeName`: how generated code names their type

## Main results

* `Expansion.kind?_schema_ofArms`: the schema finds the kind of the arm for a name
* `expand_agrees`: the generated parts agree
-/

namespace RecordFilter

/-! ### Kinds -/

namespace Kind

/-- The type that has the members of a kind. -/
def Primitive : Kind → Type
  | int k => FixedInt k
  | single => Binary .single
  | double => Binary .double
  | bool => Bool
  | text => String

/-- How generated code names that type. -/
def typeName (k : Kind) : String := if k = text then "::std::string::String" else k.name

/-- A member of a kind as a value. -/
def toValue : (k : Kind) → k.Primitive → Value
  | int k, x => Scalar.toValue (α := FixedInt k) x
  | single, x => Scalar.toValue (α := Binary .single) x
  | double, x => Scalar.toValue (α := Binary .double) x
  | bool, x => Scalar.toValue (α := Bool) x
  | text, x => Scalar.toValue (α := String) x

@[simp] theorem kind_toValue (k : Kind) (x : k.Primitive) : (k.toValue x).kind = k := by
  cases k <;> rfl

end Kind

namespace FieldKind

/-- A field is converted to the type that has the members of its kind. -/
theorem primitive_eq (k : FieldKind) : k.primitive = k.toKind.typeName := by
  cases k <;> rfl

end FieldKind

/-! ### Lookup -/

namespace Expansion

@[simp] theorem arms_ofArms (arms : List Arm) : (ofArms arms).arms = arms := rfl

/-- In the row of the kinds of some arms, a name has the kind of the first arm for it. -/
theorem find?_kinds (arms : List Arm) (name : String) :
    NameTable.find? name (arms.map fun arm => (arm.recordName, arm.kind.toKind)) =
      (arms.find? fun arm => arm.recordName == name).map fun arm => arm.kind.toKind := by
  induction arms with
  | nil => rfl
  | cons arm rest ih =>
    rw [List.map_cons, NameTable.find?, List.find?_cons, ih]
    by_cases same : name = arm.recordName
    · simp [same]
    · rw [if_neg same, beq_false_of_ne (Ne.symm same)]

/-- What the schema says of a name is said by the arm for it. -/
theorem kind?_schema_ofArms {arms : List Arm} (distinct : (arms.map Arm.recordName).Nodup)
    (name : String) :
    (ofArms arms).schema.kind? name =
      (arms.find? fun arm => arm.recordName == name).map fun arm => arm.kind.toKind := by
  have table : (ofArms arms).entries.map (fun entry => (entry.recordName, entry.kind.toKind)) =
      arms.map fun arm => (arm.recordName, arm.kind.toKind) := by
    simp [ofArms, Function.comp_def]
  rw [schema, Schema.ofList, Schema.kind?, table, NameTable.find?_ofList_of_nodup, find?_kinds]
  rwa [List.map_map]

/-- The arm for the name of an arm is that arm. -/
theorem find?_arm {arms : List Arm} (distinct : (arms.map Arm.recordName).Nodup) {arm : Arm}
    (member : arm ∈ arms) :
    (arms.find? fun other => other.recordName == arm.recordName) = some arm := by
  cases found : arms.find? fun other => other.recordName == arm.recordName with
  | none => exact absurd (List.find?_eq_none.mp found arm member) (by simp)
  | some other =>
    have same : other.recordName = arm.recordName := by simpa using List.find?_some found
    rw [List.inj_on_of_nodup_map distinct (List.mem_of_find?_eq_some found) member same]

end Expansion

/-- The constants, the arms of the accessor and the entries of the schema have one list of names:
those of the fields that are not hidden, in order, none twice. Each arm reads its own field, and
makes of it a value of the kind that the schema has for its name. So the accessor answers the
names of the schema and no others, and with values of their kinds. -/
theorem expand_agrees {d : Definition} {e : Expansion} (expanded : expand d = .ok e) :
    ∃ fields, d.shape = .named fields ∧
      (∀ f ∈ fields, f.exposedName? = none ↔ f.IsHidden) ∧
      (fields.filterMap FieldDefinition.exposedName?).Nodup ∧
      e.constants.map FieldConstant.recordName =
        fields.filterMap FieldDefinition.exposedName? ∧
      e.arms.map Arm.recordName = fields.filterMap FieldDefinition.exposedName? ∧
      e.entries.map SchemaEntry.recordName = fields.filterMap FieldDefinition.exposedName? ∧
      (e.arms.map fun arm => (arm.recordName, arm.fieldName, some arm.kind)) =
        (fields.filterMap fun f => f.exposedName?.map fun name => (name, f.name, f.declaredKind?)) ∧
      (∀ arm ∈ e.arms, ∀ entry ∈ e.entries, entry.recordName = arm.recordName →
        ∃ kind, e.schema.kind? arm.recordName = some kind ∧
          entry.constructor = "::sieve::Kind::" ++ kind.name.capitalize ∧
          arm.steps = ["::std::option::Option::Some", "::std::borrow::Cow::Owned",
            "::sieve::Value::" ++ kind.name.capitalize,
            "::std::convert::Into::<" ++ kind.typeName ++ ">::into",
            "::std::clone::Clone::clone", "&self." ++ arm.fieldName]) ∧
      ∀ (convert : String → (k : Kind) → k.Primitive) (name : String),
        (e.schema.contains name = true ↔
          ∃ v, e.answer? (fun field k => k.toKind.toValue (convert field k.toKind)) name =
            some v) ∧
        ∀ v, e.answer? (fun field k => k.toKind.toValue (convert field k.toKind)) name = some v →
          e.schema.kind? name = some v.kind := by
  obtain ⟨fields, shape, arms, exposes, rfl⟩ :
      ∃ fields, d.shape = .named fields ∧ ∃ arms, Exposes [] fields arms ∧ e = .ofArms arms := by
    rcases expand_cases d with ⟨_, _, failed⟩ | ⟨fields, shape, ⟨_, _, _, failed⟩ | run⟩
    · rw [expanded] at failed; cases failed
    · rw [expanded] at failed; cases failed
    · obtain ⟨arms, exposes, generated⟩ := run
      exact ⟨fields, shape, arms, exposes, Except.ok.inj (expanded.symm.trans generated)⟩
  have distinct := exposes.nodup
  refine ⟨fields, shape, fun f member => ⟨exposes.hidden f member, ?_⟩, exposes.names ▸ distinct,
    ?_, exposes.names, ?_, exposes.reads, ?_, fun convert name => ?_⟩
  · exact FieldDefinition.exposedName?_of_isHidden
  · rw [← exposes.names, Expansion.ofArms, List.map_map]
    rfl
  · rw [← exposes.names, Expansion.ofArms, List.map_map]
    rfl
  · intro arm member entry entryMember same
    obtain ⟨other, otherMember, rfl⟩ := List.mem_map.mp entryMember
    obtain rfl := List.inj_on_of_nodup_map distinct otherMember member same
    refine ⟨other.kind.toKind, ?_, ?_, ?_⟩
    · rw [Expansion.kind?_schema_ofArms distinct, Expansion.find?_arm distinct member]
      rfl
    · rw [SchemaEntry.constructor, FieldKind.variant_eq]
    · rw [Arm.steps, FieldKind.variant_eq, FieldKind.primitive_eq]
  · rw [Schema.contains, Expansion.kind?_schema_ofArms distinct, Expansion.answer?,
      Expansion.arms_ofArms]
    cases arms.find? fun arm => arm.recordName == name with
    | none => simp
    | some arm => simp

/-- Two fields are exposed under each other's name, one is skipped by the first of its attributes,
and one has none. -/
theorem expand_agrees_of_swapped_names :
    let record : List AttributeToken → AttributeEntry := .call ⟨false, ["record"]⟩
    let rename (name : String) : List AttributeToken :=
      [.mark ',', .word "rename", .mark '=', .text name]
    let fields : List FieldDefinition :=
      [⟨"a", [.path ⟨false, ["default"]⟩, record (.word "U8" :: rename "b")]⟩,
        ⟨"b", [record ([.word "kind", .mark '=', .text "str"] ++ rename "a")]⟩,
        ⟨"c", [record [.word "skip"], record [.word "U8"]]⟩, ⟨"d", []⟩]
    let e : Expansion := ⟨[⟨"B", "b"⟩, ⟨"A", "a"⟩], [⟨"b", "a", .u8⟩, ⟨"a", "b", .string⟩],
      [⟨"b", .u8⟩, ⟨"a", .string⟩]⟩
    expand ⟨"Swapped", [], .named fields⟩ = .ok e ∧
      fields.filterMap FieldDefinition.exposedName? = ["b", "a"] ∧ ["b", "a"].Nodup ∧
      (∀ f ∈ fields, f.exposedName? = none ↔ f.IsHidden) ∧
      ∀ (convert : String → (k : Kind) → k.Primitive) (name : String),
        e.schema.contains name = true ↔
          ∃ v, e.answer? (fun field k => k.toKind.toValue (convert field k.toKind)) name =
            some v := by
  intro record rename fields e
  have expanded : expand ⟨"Swapped", [], .named fields⟩ = .ok e := by decide +kernel
  obtain ⟨_, shape, hidden, distinct, -, arms, -, -, -, answers⟩ := expand_agrees expanded
  obtain rfl := Shape.named.inj shape
  have names : fields.filterMap FieldDefinition.exposedName? = ["b", "a"] := arms.symm
  exact ⟨expanded, names, names ▸ distinct, hidden, fun convert name => (answers convert name).1⟩

end RecordFilter
