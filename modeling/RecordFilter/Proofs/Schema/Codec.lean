import Mathlib.Data.List.Forall2
import RecordFilter.Proofs.KindNames
import RecordFilter.Proofs.NameTable
import RecordFilter.Schema.Codec

/-!
# Schemas through a codec

A text describes the fields whose names and kinds are spelled by the pairs that a codec reads of it.
A schema is read from these texts and no others. If the codec is faithful, a schema is read back
from its own document, in which kinds have their canonical names.

## Main definitions

* `Schema.Spells`: the pair spells the field
* `Schema.Codec.Describes`: the text is an object that spells these fields

## Main results

* `Schema.Codec.ofDocument?_eq_some_iff`: which texts a schema is read from
* `Schema.Codec.Faithful.ofDocument?_toDocument`: sorted schemas are read back
-/

namespace RecordFilter.Schema

/-- The pair has the name of the field, and a spelling of its kind. -/
def Spells (pair : String × String) (field : String × Kind) : Prop :=
  pair.1 = field.1 ∧ pair.2 ∈ field.2.spellings

theorem field?_eq_some_iff {pair : String × String} {field : String × Kind} :
    field? pair = some field ↔ Spells pair field := by
  obtain ⟨name, kind⟩ := field
  simp only [field?, Spells, Option.map_eq_some_iff, Kind.ofDocumentName?_eq_some_iff,
    Prod.mk.injEq]
  constructor
  · rintro ⟨_, spelled, same, rfl⟩
    exact ⟨same, spelled⟩
  · rintro ⟨same, spelled⟩
    exact ⟨kind, spelled, same, rfl⟩

theorem mapM_field?_eq_some_iff {pairs : List (String × String)} {fields : List (String × Kind)} :
    pairs.mapM field? = some fields ↔ List.Forall₂ Spells pairs fields := by
  induction pairs generalizing fields with
  | nil => simp [List.forall₂_nil_left_iff, eq_comm]
  | cons pair pairs ih =>
    simp only [List.mapM_cons, Option.bind_eq_bind, Option.bind_eq_some_iff, Option.pure_def,
      Option.some.injEq, field?_eq_some_iff, ih, List.forall₂_cons_left_iff]
    constructor
    · rintro ⟨field, first, rest, later, rfl⟩
      exact ⟨field, rest, first, later, rfl⟩
    · rintro ⟨field, rest, first, later, rfl⟩
      exact ⟨field, first, rest, later, rfl⟩

/-- Canonical names spell their own fields. -/
theorem forall₂_spells_names (fields : List (String × Kind)) :
    List.Forall₂ Spells (fields.map fun field => (field.1, field.2.name)) fields := by
  refine List.forall₂_map_left_iff.mpr (List.forall₂_same.mpr fun field _ => ?_)
  exact ⟨rfl, List.mem_cons_self⟩

namespace Codec

variable {codec : Codec} {s : Schema} {text : String} {fields other : List (String × Kind)}

/-- The text is an object of these fields in this order, each with a spelling of its kind. -/
def Describes (codec : Codec) (text : String) (fields : List (String × Kind)) : Prop :=
  ∃ pairs, codec.read? text = some pairs ∧ List.Forall₂ Spells pairs fields

theorem describes_iff_fields? : codec.Describes text fields ↔ codec.fields? text = some fields := by
  simp only [Describes, fields?, Option.bind_eq_some_iff, mapM_field?_eq_some_iff]

/-- A text describes one row of fields at most. -/
theorem Describes.unique (described : codec.Describes text fields)
    (again : codec.Describes text other) : fields = other := by
  rw [describes_iff_fields?] at described again
  exact Option.some_inj.mp (described.symm.trans again)

/-- A schema is read from the texts that describe fields of which it is the table, and from no
others. -/
theorem ofDocument?_eq_some_iff :
    codec.ofDocument? text = some s ↔ ∃ fields, codec.Describes text fields ∧ s = ofList fields := by
  simp only [ofDocument?, Option.map_eq_some_iff, describes_iff_fields?, eq_comm (a := s)]

theorem Describes.ofDocument?_eq (described : codec.Describes text fields) :
    codec.ofDocument? text = some (ofList fields) :=
  ofDocument?_eq_some_iff.mpr ⟨fields, described, rfl⟩

theorem ofDocument?_eq_none (refused : ∀ fields, ¬ codec.Describes text fields) :
    codec.ofDocument? text = none := by
  refine Option.eq_none_iff_forall_ne_some.mpr fun s read => ?_
  obtain ⟨fields, described, -⟩ := ofDocument?_eq_some_iff.mp read
  exact refused fields described

theorem toDocument_eq (codec : Codec) (s : Schema) :
    codec.toDocument s = codec.write (s.fields.map fun field => (field.1, field.2.name)) := by
  simp only [toDocument, Kind.documentName_eq_name]

/-- In the document of a sorted schema the kinds have their canonical names. -/
theorem Faithful.read?_toDocument (faithful : codec.Faithful)
    (sorted : NameTable.Sorted s.fields) : codec.read? (codec.toDocument s) =
      some (s.fields.map fun field => (field.1, field.2.name)) := by
  rw [toDocument_eq]
  refine faithful _ ?_
  rw [List.map_map]
  exact sorted.nodup_names

/-- A sorted schema is read back from its own document. -/
theorem Faithful.ofDocument?_toDocument (faithful : codec.Faithful)
    (sorted : NameTable.Sorted s.fields) : codec.ofDocument? (codec.toDocument s) = some s := by
  have described : codec.Describes (codec.toDocument s) s.fields :=
    ⟨_, faithful.read?_toDocument sorted, forall₂_spells_names s.fields⟩
  rw [described.ofDocument?_eq, ofList, sorted.ofList_eq]

end Codec

end RecordFilter.Schema
