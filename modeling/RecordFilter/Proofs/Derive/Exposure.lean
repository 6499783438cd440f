import RecordFilter.Derive.Expansion

/-!
# Exposed fields

What an attribute declares is read off its entries at once: whether one of them skips the field,
the name that is given last, and the one kind. A field is exposed unless it has no attribute for
records or the first of them skips it. The generated code of a structure is that of its exposed
fields, in their order, one by one.

## Main definitions

* `FieldAttribute.declared`: what entries declare
* `FieldDefinition.exposedName?`: the name under which a field is exposed
* `FieldDefinition.declaredKind?`: the kind under which it is exposed
* `Expansion.ofArms`: the generated code for some arms
* `DeriveError.IsReported`: the errors of the macro

## Main results

* `FieldAttribute.ofEntries_eq_ok`: attributes are read as they declare
* `expandFields_cons`: what one field adds
* `expandFields_cases`, `expand_cases`: what all fields give
-/

namespace RecordFilter

/-! ### Attributes -/

namespace AttributeEntry

/-- The name that an entry begins with. -/
def name? : AttributeEntry → Option String
  | path p | assignment p _ | call p _ => p.name?

/-- Whether an entry skips the field. -/
def skips : AttributeEntry → Bool
  | path p => p.name? = some "skip"
  | _ => false

/-- The name that an entry gives to the field. -/
def newName? : AttributeEntry → Option String
  | assignment p (.text s) => if p.name? = some "rename" then some s else none
  | _ => none

/-- The kind that an entry gives to the field. -/
def kind? : AttributeEntry → Option FieldKind
  | path p => if p.name? = some "skip" then none else p.name?.bind FieldKind.ofName?
  | assignment p (.text s) => if p.name? = some "kind" then FieldKind.ofName? s else none
  | _ => none

end AttributeEntry

namespace FieldAttribute

/-- What entries declare. Of several names the last counts. -/
def declared (entries : List AttributeEntry) : FieldAttribute where
  kind := (entries.filterMap AttributeEntry.kind?).head?
  skip := entries.any AttributeEntry.skips
  rename := (entries.filterMap AttributeEntry.newName?).getLast?

variable {a b : FieldAttribute} {entry : AttributeEntry} {entries : List AttributeEntry}

theorem declareKind_eq_ok {name : String} (declared : a.declareKind name = .ok b) :
    ∃ kind, FieldKind.ofName? name = some kind ∧ a.kind = none ∧
      b = { a with kind := some kind } := by
  unfold declareKind at declared
  split at declared
  · cases declared
  · next kind named =>
    split at declared
    · cases declared
    · next free =>
      cases declared
      exact ⟨kind, named, by simpa using free, rfl⟩

/-- An entry adds what it declares. -/
theorem addEntry_eq_ok (added : a.addEntry entry = .ok b) :
    b.skip = (a.skip || entry.skips) ∧ b.rename = entry.newName?.or a.rename ∧
      b.kind.toList = a.kind.toList ++ entry.kind?.toList := by
  unfold addEntry at added
  split at added
  · next p =>
    split at added
    · cases added
    · next name named =>
      split at added
      · next skip =>
        cases added
        simp [AttributeEntry.skips, AttributeEntry.newName?, AttributeEntry.kind?, named, skip]
      · next noSkip =>
        obtain ⟨kind, known, free, rfl⟩ := declareKind_eq_ok added
        simp [AttributeEntry.skips, AttributeEntry.newName?, AttributeEntry.kind?, named, noSkip,
          known, free]
  · cases added
  · next p s =>
    split at added
    · next renamed =>
      cases added
      simp [AttributeEntry.skips, AttributeEntry.newName?, AttributeEntry.kind?, renamed]
    · next noName =>
      split at added
      · next isKind =>
        obtain ⟨kind, known, free, rfl⟩ := declareKind_eq_ok added
        simp [AttributeEntry.skips, AttributeEntry.newName?, AttributeEntry.kind?, isKind, known,
          free]
      · cases added
  · cases added

/-- A row of entries adds what its entries declare. -/
theorem addEntries_eq_ok (added : a.addEntries entries = .ok b) :
    b.skip = (a.skip || entries.any AttributeEntry.skips) ∧
      b.rename = (entries.filterMap AttributeEntry.newName?).getLast?.or a.rename ∧
      b.kind.toList = a.kind.toList ++ entries.filterMap AttributeEntry.kind? := by
  induction entries generalizing a with
  | nil =>
    cases added
    simp
  | cons entry rest ih =>
    rw [addEntries] at added
    split at added
    · cases added
    · next c first =>
      obtain ⟨skip, rename, kind⟩ := addEntry_eq_ok first
      obtain ⟨skips, renames, kinds⟩ := ih added
      refine ⟨by simp [skips, skip, Bool.or_assoc], ?_, ?_⟩
      · rw [renames, rename]
        cases found : entry.newName? with
        | none => simp [found]
        | some name =>
          rw [List.filterMap_cons_some found, List.getLast?_cons]
          cases (rest.filterMap AttributeEntry.newName?).getLast? <;> rfl
      · rw [kinds, kind, List.append_assoc]
        cases found : entry.kind? <;> simp [found]

/-- Attributes are read as they declare. -/
theorem ofEntries_eq_ok (read : ofEntries entries = .ok a) : a = declared entries := by
  unfold ofEntries at read
  split at read
  · cases read
  · next b added =>
    split at read
    · cases read
    · cases read
      obtain ⟨skip, rename, kind⟩ := addEntries_eq_ok added
      obtain ⟨kindOf, skipped, name⟩ := a
      simp only [empty, Bool.false_or, Option.or_none] at skip rename kind
      have head := congrArg List.head? kind
      simp only [declared, skip, rename]
      cases kindOf <;> simpa using head

end FieldAttribute

/-! ### Errors -/

/-- An error that the macro reports. A name that makes no constant is a panic instead. -/
def DeriveError.IsReported : DeriveError → Prop
  | invalidConstant _ => False
  | _ => True

namespace FieldAttribute

variable {a : FieldAttribute} {entries : List AttributeEntry} {e : DeriveError}

theorem isReported_of_declareKind {name : String} (failed : a.declareKind name = .error e) :
    e.IsReported := by
  unfold declareKind at failed
  split at failed
  · cases failed; trivial
  · split at failed <;> cases failed
    trivial

theorem isReported_of_addEntry {entry : AttributeEntry} (failed : a.addEntry entry = .error e) :
    e.IsReported := by
  unfold addEntry at failed
  split at failed
  · split at failed
    · cases failed; trivial
    · split at failed
      · cases failed
      · exact isReported_of_declareKind failed
  · cases failed; trivial
  · split at failed
    · cases failed
    · split at failed
      · exact isReported_of_declareKind failed
      · cases failed; trivial
  · cases failed; trivial

theorem isReported_of_addEntries (failed : a.addEntries entries = .error e) : e.IsReported := by
  induction entries generalizing a with
  | nil => cases failed
  | cons entry rest ih =>
    rw [addEntries] at failed
    split at failed
    · next first => cases failed; exact isReported_of_addEntry first
    · exact ih failed

theorem isReported_of_ofEntries (failed : ofEntries entries = .error e) : e.IsReported := by
  unfold ofEntries at failed
  split at failed
  · next first => cases failed; exact isReported_of_addEntries first
  · split at failed <;> cases failed
    trivial

end FieldAttribute

/-! ### Fields -/

namespace FieldDefinition

/-- The first attribute for records. -/
def firstAttribute? (f : FieldDefinition) : Option AttributeEntry :=
  f.attributes.find? fun entry => entry.name? == some "record"

/-- What the first attribute for records declares, if it is a list of entries. -/
def declared? (f : FieldDefinition) : Option FieldAttribute :=
  match f.firstAttribute? with
  | some (.call _ arguments) =>
    (AttributeEntry.ofTokens arguments).toOption.map FieldAttribute.declared
  | _ => none

/-- No attribute is for records, or the first one that is skips the field. -/
def IsHidden (f : FieldDefinition) : Prop :=
  f.firstAttribute? = none ∨ ∃ a, f.declared? = some a ∧ a.skip = true

/-- The name under which a field is exposed. -/
def exposedName? (f : FieldDefinition) : Option String :=
  f.declared?.bind fun a => if a.skip then none else some (a.rename.getD f.name)

/-- The kind that a field declares. -/
def declaredKind? (f : FieldDefinition) : Option FieldKind := f.declared?.bind FieldAttribute.kind

theorem exposedName?_of_isHidden {f : FieldDefinition} (hidden : f.IsHidden) :
    f.exposedName? = none := by
  rcases hidden with absent | ⟨a, declared, skip⟩
  · rw [exposedName?, declared?, absent]
    rfl
  · rw [exposedName?, declared, Option.bind_some, if_pos skip]

theorem recordAttribute_eq (f : FieldDefinition) :
    f.recordAttribute = match f.firstAttribute? with
      | none => .ok none
      | some (.call _ arguments) =>
        match AttributeEntry.ofTokens arguments with
        | .error e => .error (.malformed e)
        | .ok entries => (FieldAttribute.ofEntries entries).map some
      | some (.path _) => .error .argumentsExpected
      | some (.assignment _ _) => .error .bracketsExpected := by
  have same : f.firstAttribute? = f.attributes.find? fun entry =>
      (match entry with
        | .path p | .assignment p _ | .call p _ => p).name? == some "record" := by
    unfold firstAttribute?
    congr 1
    funext entry
    cases entry <;> rfl
  rw [same]
  rfl

/-- The first attribute for records is bad, there is none, or it declares what its entries do. -/
theorem recordAttribute_cases (f : FieldDefinition) :
    (∃ e, e.IsReported ∧ f.recordAttribute = .error e) ∨
    (f.firstAttribute? = none ∧ f.recordAttribute = .ok none) ∨
    ∃ a, f.declared? = some a ∧ f.recordAttribute = .ok (some a) := by
  rw [recordAttribute_eq, declared?]
  cases f.firstAttribute? with
  | none => exact .inr (.inl ⟨rfl, rfl⟩)
  | some entry =>
    cases entry with
    | path => exact .inl ⟨.argumentsExpected, trivial, rfl⟩
    | assignment => exact .inl ⟨.bracketsExpected, trivial, rfl⟩
    | call _ arguments =>
      dsimp only
      cases AttributeEntry.ofTokens arguments with
      | error e => exact .inl ⟨.malformed e, trivial, rfl⟩
      | ok entries =>
        dsimp only
        cases read : FieldAttribute.ofEntries entries with
        | error e => exact .inl ⟨e, FieldAttribute.isReported_of_ofEntries read, rfl⟩
        | ok a =>
          obtain rfl := FieldAttribute.ofEntries_eq_ok read
          exact .inr (.inr ⟨_, rfl, rfl⟩)

end FieldDefinition

/-! ### Generated code -/

/-- The generated code whose accessor has the given arms. -/
def Expansion.ofArms (arms : List Arm) : Expansion where
  constants := arms.map fun arm => ⟨constantName arm.recordName, arm.recordName⟩
  arms := arms
  entries := arms.map fun arm => ⟨arm.recordName, arm.kind⟩

/-- What one field adds in front of the fields after it: an error, nothing, or an arm with a new
name, whose constant may be no identifier. -/
theorem expandFields_cons (taken : List String) (f : FieldDefinition)
    (fields : List FieldDefinition) :
    (∃ e, e.IsReported ∧ expandFields taken (f :: fields) = .error e) ∨
    (f.IsHidden ∧ expandFields taken (f :: fields) = expandFields taken fields) ∨
    ∃ name kind, f.exposedName? = some name ∧ f.declaredKind? = some kind ∧ name ∉ taken ∧
      expandFields taken (f :: fields) =
        if Text.isIdentifier (constantName name).toList then
          (expandFields (name :: taken) fields).map (.add name f.name kind)
        else .error (.invalidConstant (constantName name)) := by
  rw [expandFields]
  rcases f.recordAttribute_cases with ⟨e, reported, read⟩ | ⟨absent, read⟩ | ⟨a, declared, read⟩
  · rw [read]
    exact .inl ⟨e, reported, rfl⟩
  · rw [read]
    exact .inr (.inl ⟨.inl absent, rfl⟩)
  · simp only [read, FieldDefinition.exposedName?, FieldDefinition.declaredKind?, declared,
      Option.bind_some]
    cases skip : a.skip with
    | true => exact .inr (.inl ⟨.inr ⟨a, declared, skip⟩, rfl⟩)
    | false =>
      cases a.kind with
      | none => exact .inl ⟨.missingKind, trivial, rfl⟩
      | some kind =>
        by_cases new : a.rename.getD f.name ∈ taken
        · exact .inl ⟨.duplicateName (a.rename.getD f.name), trivial, by simp [new]⟩
        · refine .inr (.inr ⟨_, kind, rfl, rfl, new, ?_⟩)
          cases Text.isIdentifier (constantName (a.rename.getD f.name)).toList <;> simp [new]

/-- The fields are exposed by these arms, one by one, under names that differ from each other and
from those taken before. -/
structure Exposes (taken : List String) (fields : List FieldDefinition) (arms : List Arm) :
    Prop where
  reads : arms.map (fun arm => (arm.recordName, arm.fieldName, some arm.kind)) =
    fields.filterMap fun f => f.exposedName?.map fun name => (name, f.name, f.declaredKind?)
  hidden : ∀ f ∈ fields, f.exposedName? = none → f.IsHidden
  nodup : (arms.map Arm.recordName).Nodup
  fresh : ∀ arm ∈ arms, arm.recordName ∉ taken
  identifiers : ∀ arm ∈ arms, Text.isIdentifier (constantName arm.recordName).toList = true

namespace Exposes

variable {taken : List String} {f : FieldDefinition} {fields : List FieldDefinition}
  {arms : List Arm}

theorem nil (taken : List String) : Exposes taken [] [] := by constructor <;> simp

/-- A hidden field adds no arm. -/
theorem cons_hidden (hidden : f.IsHidden) (later : Exposes taken fields arms) :
    Exposes taken (f :: fields) arms where
  reads := by simpa [FieldDefinition.exposedName?_of_isHidden hidden] using later.reads
  hidden := List.forall_mem_cons.mpr ⟨fun _ => hidden, later.hidden⟩
  nodup := later.nodup
  fresh := later.fresh
  identifiers := later.identifiers

/-- An exposed field adds an arm. Its name is taken for the fields after it. -/
theorem cons_exposed {name : String} {kind : FieldKind} (exposed : f.exposedName? = some name)
    (declared : f.declaredKind? = some kind) (new : name ∉ taken)
    (identifier : Text.isIdentifier (constantName name).toList = true)
    (later : Exposes (name :: taken) fields arms) :
    Exposes taken (f :: fields) (⟨name, f.name, kind⟩ :: arms) where
  reads := by simp [exposed, declared, later.reads]
  hidden := List.forall_mem_cons.mpr ⟨by simp [exposed], later.hidden⟩
  nodup := by
    refine List.nodup_cons.mpr ⟨fun again => ?_, later.nodup⟩
    obtain ⟨arm, member, same⟩ := List.mem_map.mp again
    exact later.fresh arm member (same ▸ List.mem_cons_self)
  fresh := List.forall_mem_cons.mpr
    ⟨new, fun arm member old => later.fresh arm member (List.mem_cons_of_mem _ old)⟩
  identifiers := List.forall_mem_cons.mpr ⟨identifier, later.identifiers⟩

/-- The names of the arms are those under which fields are exposed. -/
theorem names (exposes : Exposes taken fields arms) :
    arms.map Arm.recordName = fields.filterMap FieldDefinition.exposedName? := by
  have first := congrArg (List.map Prod.fst) exposes.reads
  simpa [List.map_filterMap, Function.comp_def] using first

end Exposes

/-- What all fields give: an error of the macro, a panic at a name that makes no constant, or the
code of the exposed fields. -/
theorem expandFields_cases (taken : List String) (fields : List FieldDefinition) :
    (∃ e, e.IsReported ∧ expandFields taken fields = .error e) ∨
    (∃ name ∈ fields.filterMap FieldDefinition.exposedName?,
      Text.isIdentifier (constantName name).toList = false ∧
        expandFields taken fields = .error (.invalidConstant (constantName name))) ∨
    ∃ arms, Exposes taken fields arms ∧ expandFields taken fields = .ok (.ofArms arms) := by
  induction fields generalizing taken with
  | nil => exact .inr (.inr ⟨[], .nil taken, rfl⟩)
  | cons f fields ih =>
    rcases expandFields_cons taken f fields with failed | ⟨hidden, same⟩ |
      ⟨name, kind, exposed, declared, new, step⟩
    · exact .inl failed
    · rw [same, List.filterMap_cons_none (FieldDefinition.exposedName?_of_isHidden hidden)]
      refine (ih taken).imp_right (.imp_right ?_)
      rintro ⟨arms, exposes, rest⟩
      exact ⟨arms, exposes.cons_hidden hidden, rest⟩
    · rw [step, List.filterMap_cons_some exposed]
      cases identifier : Text.isIdentifier (constantName name).toList with
      | false => exact .inr (.inl ⟨name, List.mem_cons_self, identifier, rfl⟩)
      | true =>
        rw [if_pos rfl]
        rcases ih (name :: taken) with ⟨e, reported, rest⟩ | ⟨other, member, invalid, rest⟩ |
          ⟨arms, exposes, rest⟩
        · exact .inl ⟨e, reported, by rw [rest]; rfl⟩
        · exact .inr (.inl ⟨other, List.mem_cons_of_mem _ member, invalid, by rw [rest]; rfl⟩)
        · exact .inr (.inr ⟨_, exposes.cons_exposed exposed declared new identifier, by
            rw [rest]; rfl⟩)

/-- What a definition gives. -/
theorem expand_cases (d : Definition) :
    (∃ e, e.IsReported ∧ expand d = .error e) ∨
    ∃ fields, d.shape = .named fields ∧
      ((∃ name ∈ fields.filterMap FieldDefinition.exposedName?,
        Text.isIdentifier (constantName name).toList = false ∧
          expand d = .error (.invalidConstant (constantName name))) ∨
      ∃ arms, Exposes [] fields arms ∧ expand d = .ok (.ofArms arms)) := by
  obtain ⟨_, _, shape⟩ := d
  cases shape with
  | named fields => exact (expandFields_cases [] fields).imp_right fun run => ⟨fields, rfl, run⟩
  | tuple | unit => exact .inl ⟨.fieldsNotNamed, trivial, rfl⟩
  | sum | union => exact .inl ⟨.notStruct, trivial, rfl⟩

end RecordFilter
