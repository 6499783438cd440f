import RecordFilter.Proofs.Schema.Codec
import RecordFilter.Proofs.Schema.Document

/-!
# Histories of schemas

A schema is made by steps: fields are added one by one, all at once, or from a document. What it
remembers of them is a row of fields. An added field comes behind the others, a row given as a
whole takes the place of what was there, and a text that describes no fields changes nothing. The
schema is the table of this row, so every name has the kind that it was given last. Through any
faithful codec it is read back from its own document, which does not tell by which steps or
spellings it was made; JSON objects are such a codec.

## Main definitions

* `Schema.Step`: the ways to change a schema
* `Schema.Codec.after`, `Schema.Codec.run`: what one step does and what a row of them makes
* `Schema.Gives`, `Schema.Given`: the fields that are left of the steps
* `Schema.Describes`: the text is a JSON object of these fields

## Main results

* `Schema.Gives.after_eq`, `Schema.Given.run_eq`: the schema is the table of the fields left
* `Schema.Codec.Faithful.run_survives`: what a history makes, and how a faithful codec writes it
  and reads it back
* `Schema.run_survives_documents`: the same for JSON objects
-/

namespace RecordFilter.Schema

open NameTable (IsLast)

/-! ### Steps -/

/-- The ways to change a schema. -/
inductive Step
  | insert (name : String) (kind : Kind)
  | withField (name : String) (kind : Kind)
  | collect (fields : List (String × Kind))
  | load (text : String)

/-- The schema after a step. A text that is refused leaves it as it was. -/
def Codec.after (codec : Codec) (s : Schema) : Step → Schema
  | .insert name kind => (s.insert name kind).2
  | .withField name kind => s.withField name kind
  | .collect fields => ofList fields
  | .load text => (codec.ofDocument? text).getD s

/-- The schema after a row of steps, from none of the fields. -/
def Codec.run (codec : Codec) (steps : List Step) : Schema := steps.foldl codec.after empty

section Left

variable (describes : String → List (String × Kind) → Prop)

/-- What a step makes of the fields that were given before it, if it is known which fields a text
describes. -/
inductive Gives (row : List (String × Kind)) : Step → List (String × Kind) → Prop
  | insert (name : String) (kind : Kind) : Gives row (.insert name kind) (row ++ [(name, kind)])
  | withField (name : String) (kind : Kind) :
      Gives row (.withField name kind) (row ++ [(name, kind)])
  | collect (fields : List (String × Kind)) : Gives row (.collect fields) fields
  | load {text : String} {fields : List (String × Kind)} (described : describes text fields) :
      Gives row (.load text) fields
  | refuse {text : String} (refused : ∀ fields, ¬ describes text fields) :
      Gives row (.load text) row

/-- The fields that are left of a row of steps, in the order in which they were given. -/
inductive Given : List Step → List (String × Kind) → Prop
  | nothing : Given [] []
  | step {steps : List Step} {row next : List (String × Kind)} {step : Step}
      (before : Given steps row) (gives : Gives describes row step next) :
      Given (steps ++ [step]) next

end Left

section Histories

variable {codec : Codec} {describes : String → List (String × Kind) → Prop} {step : Step}
  {steps : List Step} {text : String} {row next other fields : List (String × Kind)}

/-! ### One step -/

/-- A step makes the table of the fields that it gives. -/
theorem Gives.after_eq (gives : Gives codec.Describes row step next) :
    codec.after (ofList row) step = ofList next := by
  cases gives with
  | insert name kind => exact congrArg Schema.mk (NameTable.ofList_concat row (name, kind)).symm
  | withField name kind => exact congrArg Schema.mk (NameTable.ofList_concat row (name, kind)).symm
  | collect => rfl
  | load described => rw [Codec.after, described.ofDocument?_eq, Option.getD_some]
  | refuse refused => rw [Codec.after, Codec.ofDocument?_eq_none refused, Option.getD_none]

theorem exists_gives (row : List (String × Kind)) (step : Step) :
    ∃ next, Gives describes row step next := by
  cases step with
  | insert name kind => exact ⟨_, .insert name kind⟩
  | withField name kind => exact ⟨_, .withField name kind⟩
  | collect fields => exact ⟨_, .collect fields⟩
  | load text =>
    by_cases described : ∃ fields, describes text fields
    · obtain ⟨fields, described⟩ := described
      exact ⟨fields, .load described⟩
    · exact ⟨row, .refuse (not_exists.mp described)⟩

theorem Gives.unique (gives : Gives codec.Describes row step next)
    (again : Gives codec.Describes row step other) : other = next := by
  cases gives with
  | load described =>
    cases again with
    | load other => exact other.unique described
    | refuse refused => exact absurd described (refused _)
  | refuse refused =>
    cases again with
    | load described => exact absurd described (refused _)
    | refuse => rfl
  | _ =>
    cases again
    rfl

/-! ### Runs -/

theorem Codec.run_concat (codec : Codec) (steps : List Step) (step : Step) :
    codec.run (steps ++ [step]) = codec.after (codec.run steps) step :=
  List.foldl_concat ..

theorem given_nil_iff : Given describes [] row ↔ row = [] := by
  constructor
  · intro given
    generalize whole : ([] : List Step) = steps at given
    cases given with
    | nothing => rfl
    | step => simp at whole
  · rintro rfl
    exact .nothing

theorem given_concat_iff : Given describes (steps ++ [step]) next ↔
    ∃ row, Given describes steps row ∧ Gives describes row step next := by
  constructor
  · intro given
    generalize whole : steps ++ [step] = all at given
    cases given with
    | nothing => simp at whole
    | step before gives =>
      obtain ⟨rfl, same⟩ := List.append_inj' whole rfl
      cases same
      exact ⟨_, before, gives⟩
  · rintro ⟨row, before, gives⟩
    exact .step before gives

/-- Every history leaves one row of fields. -/
theorem exists_given_iff_eq (codec : Codec) (steps : List Step) :
    ∃ row, ∀ other, Given codec.Describes steps other ↔ other = row := by
  -- a history grows at its end
  induction steps using List.reverseRecOn with
  | nil => exact ⟨[], fun _ => given_nil_iff⟩
  | append_singleton steps step ih =>
    obtain ⟨row, only⟩ := ih
    obtain ⟨next, gives⟩ := exists_gives row step
    refine ⟨next, fun other => ?_⟩
    simp only [given_concat_iff, only, exists_eq_left]
    constructor
    · exact gives.unique
    · rintro rfl
      exact gives

/-- A history makes the table of the fields that are left of it. -/
theorem Given.run_eq (given : Given codec.Describes steps row) :
    codec.run steps = ofList row := by
  induction given with
  | nothing => rfl
  | step _ gives ih => rw [Codec.run_concat, ih, gives.after_eq]

/-- What a history makes, if the codec reads what it writes. The names of the fields that are left
are strictly increasing in the order of bytes, each with the kind that it was given last, which is
what an insertion answers. The schema is read back from its own document, in which the kinds have
their canonical names. Texts are loaded in a history too, so it does not matter by which spellings
they gave the kinds, and which of them were refused. -/
theorem Codec.Faithful.run_survives (faithful : codec.Faithful)
    (given : Given codec.Describes steps row) :
    ((codec.run steps).fields.map fun field => Text.utf8Bytes field.1).Pairwise (· < ·) ∧
      (∀ name kind, (name, kind) ∈ (codec.run steps).fields ↔ IsLast row name kind) ∧
      (∀ name kind previous,
        ((codec.run steps).insert name kind).1 = some previous ↔ IsLast row name previous) ∧
      codec.ofDocument? (codec.toDocument (codec.run steps)) = some (codec.run steps) ∧
      codec.read? (codec.toDocument (codec.run steps)) =
        some ((codec.run steps).fields.map fun field => (field.1, field.2.name)) := by
  have sorted : NameTable.Sorted (ofList row).fields := NameTable.sorted_ofList row
  rw [given.run_eq]
  exact ⟨sorted.utf8Bytes_lt, fun _ _ => NameTable.mem_ofList_iff,
    fun _ _ _ => NameTable.find?_ofList_eq_some_iff, faithful.ofDocument?_toDocument sorted,
    faithful.read?_toDocument sorted⟩

end Histories

/-! ### JSON objects -/

/-- The text is a JSON object of these fields in this order, each with a spelling of its kind. -/
def Describes (text : String) (fields : List (String × Kind)) : Prop :=
  ∃ pairs, Document.Written pairs text.toList ∧ List.Forall₂ Spells pairs fields

/-- What the codec of JSON objects reads is given by their forms. -/
theorem describes_codec : Document.codec.Describes = Describes := by
  funext text fields
  exact propext (exists_congr fun _ => and_congr_left' Document.read?_eq_some_iff)

section Json

open Document (codec)

/-- Of a history one row of fields is left. The schema that it makes has the names of the row
strictly increasing in the order of bytes, each with the kind that it was given last, which is what
an insertion answers. It is read back from its own document, which has canonical names only. From
a document, by any spellings of the kinds, the table of its fields is read, and read back again
from what is written for it; a text that is no document changes nothing. -/
theorem run_survives_documents (steps : List Step) :
    ∃ row, (∀ other, Given Describes steps other ↔ other = row) ∧
      ((codec.run steps).fields.map fun field => Text.utf8Bytes field.1).Pairwise (· < ·) ∧
      (∀ name kind, (name, kind) ∈ (codec.run steps).fields ↔ IsLast row name kind) ∧
      (∀ name kind previous,
        ((codec.run steps).insert name kind).1 = some previous ↔ IsLast row name previous) ∧
      ofDocument? (codec.run steps).toDocument = some (codec.run steps) ∧
      Document.Written ((codec.run steps).fields.map fun field => (field.1, field.2.name))
        (codec.run steps).toDocument.toList ∧
      (∀ text fields, Describes text fields →
        ofDocument? text = some (ofList fields) ∧
        codec.run (steps ++ [.load text]) = ofList fields ∧
        (∀ name kind, (name, kind) ∈ (ofList fields).fields ↔ IsLast fields name kind) ∧
        Document.Written ((ofList fields).fields.map fun field => (field.1, field.2.name))
          (ofList fields).toDocument.toList ∧
        ofDocument? (ofList fields).toDocument = some (ofList fields)) ∧
      ∀ text, (∀ fields, ¬ Describes text fields) →
        ofDocument? text = none ∧ codec.run (steps ++ [.load text]) = codec.run steps := by
  obtain ⟨row, only⟩ := exists_given_iff_eq codec steps
  have given : Given codec.Describes steps row := (only row).mpr rfl
  obtain ⟨sorted, lasts, previous, back, canonical⟩ :=
    Document.faithful_codec.run_survives given
  rw [← describes_codec]
  refine ⟨row, only, sorted, lasts, previous, back, Document.read?_eq_some_iff.mp canonical,
    fun text fields described => ?_, fun text refused => ?_⟩
  · have loaded : Given codec.Describes (steps ++ [.load text]) fields :=
      .step given (.load described)
    have made : codec.run (steps ++ [.load text]) = ofList fields := loaded.run_eq
    obtain ⟨-, lasts, -, back, canonical⟩ := Document.faithful_codec.run_survives loaded
    rw [made] at lasts back canonical
    exact ⟨described.ofDocument?_eq, made, lasts, Document.read?_eq_some_iff.mp canonical, back⟩
  · have same : Given codec.Describes (steps ++ [.load text]) row :=
      .step given (.refuse refused)
    exact ⟨Codec.ofDocument?_eq_none refused, same.run_eq.trans given.run_eq.symm⟩

/-- A name with a mark, a backslash and a control is given two kinds and written with escapes. A
document with aliases, an object for a kind and a name that stands twice is loaded, and one with an
unknown kind is not. -/
theorem run_survives_documents_of_escapes :
    ∃ steps text refused fields, Describes text fields ∧ (∀ others, ¬ Describes refused others) ∧
      (codec.run steps).fields = [("\"\\\x01é", .bool), ("b", .text)] ∧
      (codec.run steps).toDocument = "\x7b\"\\\"\\\\\\u0001é\":\"bool\",\"b\":\"string\"\x7d" ∧
      ofDocument? (codec.run steps).toDocument = some (codec.run steps) ∧
      codec.run (steps ++ [.load refused]) = codec.run steps ∧
      codec.run (steps ++ [.load text]) = ofList fields ∧
      (ofList fields).toDocument = "\x7b\"a\\\"\":\"string\",\"é\":\"f64\"\x7d" ∧
      ofDocument? (ofList fields).toDocument = some (ofList fields) := by
  let steps : List Step := [.withField "z" .single, .collect [("b", .int .i8)],
    .insert "\"\\\x01é" (.int .u8), .withField "b" .text, .insert "\"\\\x01é" .bool]
  let text := "\x7b \"é\" : \"boolean\", \"a\\u0022\" :\x7b\"str\":null \x7d, \"é\":\"float\" \x7d"
  let refused := "\x7b\"when\": \"timestamp\"\x7d"
  let fields : List (String × Kind) := [("é", .bool), ("a\"", .text), ("é", .double)]
  have described : Describes text fields := by
    rw [← describes_codec, Codec.describes_iff_fields?]
    decide +kernel
  have unknown (others : List (String × Kind)) : ¬ Describes refused others := by
    have unread : codec.fields? refused = none := by decide +kernel
    simp [← describes_codec, Codec.describes_iff_fields?, unread]
  obtain ⟨_, -, -, -, -, back, -, loaded, kept⟩ := run_survives_documents steps
  obtain ⟨-, same, -, -, again⟩ := loaded text fields described
  refine ⟨steps, text, refused, fields, described, unknown, ?_, ?_, back,
    (kept refused unknown).2, same, ?_, again⟩
  · decide +kernel
  · decide +kernel
  · decide +kernel

end Json

end RecordFilter.Schema
