import RecordFilter.Derive.ConstantName
import RecordFilter.Derive.FieldAttribute
import RecordFilter.Schema.Basic
import RecordFilter.Value

/-!
# Generated code for record types

From the definition of a structure with named fields the code is generated that makes it a
record: a constant with the name of each exposed field, an accessor that answers the names,
and a schema that describes them. A field is exposed if its first attribute for records
does not skip it.

## Main definitions

* `Definition`: a type's definition, as far as it matters here
* `Expansion`: the generated code
* `expand`: the code for a definition
* `Expansion.schema`, `Expansion.answer?`: what the generated code does
-/

namespace RecordFilter

/-- A field of a structure, with its attributes in order. -/
structure FieldDefinition where
  name : String
  attributes : List AttributeEntry
  deriving DecidableEq, Repr

/-- The forms of type definitions. -/
inductive Shape where
  | named (fields : List FieldDefinition)
  | tuple
  | unit
  | sum
  | union
  deriving DecidableEq, Repr

/-- The definition of a type. -/
structure Definition where
  name : String
  /-- The names of the type's parameters. -/
  parameters : List String
  shape : Shape
  deriving DecidableEq, Repr

/-- The type with its parameters, as generated code names it. -/
def Definition.selfType (d : Definition) : String :=
  if d.parameters.isEmpty then d.name
  else d.name ++ "<" ++ ", ".intercalate d.parameters ++ ">"

/-- The names that a list of parameters declares: the words at its beginning and after its
commas. -/
def parameterNames (text : String) : List String :=
  match AttributeToken.readAll? text with
  | some (.mark '<' :: tokens) =>
    ((AttributeToken.mark ',' :: tokens).zip tokens).filterMap fun
      | (.mark ',', .word name) => some name
      | _ => none
  | _ => []

/-- A constant with the name of a field. -/
structure FieldConstant where
  constant : String
  recordName : String
  deriving DecidableEq, Repr

/-- The part of an accessor that answers one name. -/
structure Arm where
  recordName : String
  /-- The field that is read. -/
  fieldName : String
  kind : FieldKind
  deriving DecidableEq, Repr

/-- The steps by which an arm makes a value of a field, outermost first. -/
def Arm.steps (a : Arm) : List String :=
  ["::std::option::Option::Some", "::std::borrow::Cow::Owned",
    "::sieve::Value::" ++ a.kind.variant,
    "::std::convert::Into::<" ++ a.kind.primitive ++ ">::into",
    "::std::clone::Clone::clone", "&self." ++ a.fieldName]

/-- A field in a generated schema. -/
structure SchemaEntry where
  recordName : String
  kind : FieldKind
  deriving DecidableEq, Repr

/-- The constructor that an entry names. -/
def SchemaEntry.constructor (e : SchemaEntry) : String := "::sieve::Kind::" ++ e.kind.variant

/-- Generated code. -/
structure Expansion where
  constants : List FieldConstant
  arms : List Arm
  entries : List SchemaEntry
  deriving DecidableEq, Repr

namespace FieldDefinition

/-- What the first attribute for records declares, if there is one. -/
def recordAttribute (f : FieldDefinition) : Except DeriveError (Option FieldAttribute) :=
  let path : AttributeEntry → Path
    | .path p | .assignment p _ | .call p _ => p
  match f.attributes.find? fun entry => (path entry).name? == some "record" with
  | none => .ok none
  | some (.call _ arguments) =>
    match AttributeEntry.ofTokens arguments with
    | .error e => .error (.malformed e)
    | .ok entries => (FieldAttribute.ofEntries entries).map some
  | some (.path _) => .error .argumentsExpected
  | some (.assignment _ _) => .error .bracketsExpected

end FieldDefinition

/-- The generated code of one exposed field in front of that of the fields after it. -/
def Expansion.add (name fieldName : String) (kind : FieldKind) (e : Expansion) : Expansion where
  constants := ⟨constantName name, name⟩ :: e.constants
  arms := ⟨name, fieldName, kind⟩ :: e.arms
  entries := ⟨name, kind⟩ :: e.entries

/-- The generated code of some fields, where `taken` are the names exposed before them. -/
def expandFields (taken : List String) : List FieldDefinition → Except DeriveError Expansion
  | [] => .ok ⟨[], [], []⟩
  | f :: rest =>
    match f.recordAttribute with
    | .error e => .error e
    | .ok none => expandFields taken rest
    | .ok (some a) =>
      if a.skip then expandFields taken rest
      else
        match a.kind with
        | none => .error .missingKind
        | some kind =>
          let name := a.rename.getD f.name
          -- a name that is taken counts before one that makes no constant
          if taken.contains name then .error (.duplicateName name)
          else if !Text.isIdentifier (constantName name).toList then
            .error (.invalidConstant (constantName name))
          else (expandFields (name :: taken) rest).map (Expansion.add name f.name kind)

/-- The generated code for a definition. -/
def expand (d : Definition) : Except DeriveError Expansion :=
  match d.shape with
  | .named fields => expandFields [] fields
  | .tuple | .unit => .error .fieldsNotNamed
  | .sum | .union => .error .notStruct

namespace Expansion

/-- The schema that the generated code describes. -/
def schema (e : Expansion) : Schema :=
  .ofList (e.entries.map fun entry => (entry.recordName, entry.kind.toKind))

/-- What the generated accessor answers for a name: the first arm for it reads its field
and makes a value of its kind. `read` converts a field to a kind. -/
def answer? (e : Expansion) (read : String → FieldKind → Value) (name : String) :
    Option Value :=
  (e.arms.find? fun arm => arm.recordName == name).map fun arm => read arm.fieldName arm.kind

end Expansion

end RecordFilter
