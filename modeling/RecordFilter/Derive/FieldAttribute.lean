import RecordFilter.Derive.Entry
import RecordFilter.Kind

/-!
# Attributes of exposed fields

The attribute of a field says whether the field is exposed, under which kind, and under
which name. Its entries are examined in order and the first bad one decides the error;
only then is it checked that a skipped field has no kind.

## Main definitions

* `FieldKind`: the kinds as the constructors that generated code names
* `DeriveError`, with its wording
* `FieldAttribute.ofEntries`: what a list of entries declares
-/

namespace RecordFilter

/-- The kind of an exposed field, as generated code names it. -/
inductive FieldKind where
  | i8 | i16 | i32 | i64 | u8 | u16 | u32 | u64 | f32 | f64 | bool | string
  deriving DecidableEq, Repr

namespace FieldKind

/-- The name of the constructor for values of the kind. -/
def variant : FieldKind → String
  | i8 => "I8"
  | i16 => "I16"
  | i32 => "I32"
  | i64 => "I64"
  | u8 => "U8"
  | u16 => "U16"
  | u32 => "U32"
  | u64 => "U64"
  | f32 => "F32"
  | f64 => "F64"
  | bool => "Bool"
  | string => "String"

/-- The type that a field is converted to. -/
def primitive : FieldKind → String
  | i8 => "i8"
  | i16 => "i16"
  | i32 => "i32"
  | i64 => "i64"
  | u8 => "u8"
  | u16 => "u16"
  | u32 => "u32"
  | u64 => "u64"
  | f32 => "f32"
  | f64 => "f64"
  | bool => "bool"
  | string => "::std::string::String"

/-- The kind of the values that a field has. -/
def toKind : FieldKind → Kind
  | i8 => .int .i8
  | i16 => .int .i16
  | i32 => .int .i32
  | i64 => .int .i64
  | u8 => .int .u8
  | u16 => .int .u16
  | u32 => .int .u32
  | u64 => .int .u64
  | f32 => .single
  | f64 => .double
  | bool => .bool
  | string => .text

/-- The names by which attributes call the kinds. -/
def table : List (String × FieldKind) :=
  [("i8", i8), ("int8", i8), ("i16", i16), ("int16", i16), ("i32", i32), ("int32", i32),
    ("i64", i64), ("int64", i64), ("int", i64), ("u8", u8), ("uint8", u8), ("u16", u16),
    ("uint16", u16), ("u32", u32), ("uint32", u32), ("u64", u64), ("uint64", u64),
    ("uint", u64), ("f32", f32), ("float32", f32), ("f64", f64), ("float64", f64),
    ("float", f64), ("bool", bool), ("boolean", bool), ("string", string), ("str", string)]

/-- The kind with a name, in any case. -/
def ofName? (name : String) : Option FieldKind := table.lookup name.toLower

end FieldKind

/-- Why a definition has no generated code. -/
inductive DeriveError where
  | unknownKind (name : String)
  /-- A path that is no single name. -/
  | kindExpected
  /-- A value that is no string. -/
  | textExpected
  /-- A value for a name that takes none. -/
  | unknownKey
  /-- An entry with arguments. -/
  | unknownEntry
  | kindTwice
  | skippedKind
  | missingKind
  | duplicateName (name : String)
  | fieldsNotNamed
  | notStruct
  /-- The attribute has no arguments. -/
  | argumentsExpected
  /-- The attribute has a value in place of arguments. -/
  | bracketsExpected
  /-- The arguments of the attribute are no list of entries. -/
  | malformed (e : EntryError)
  /-- The name of a field makes no name of a constant. -/
  | invalidConstant (name : String)
  deriving DecidableEq, Repr

namespace DeriveError

/-- The kinds as messages list them. -/
def kindList : String := "I8, I16, I32, I64, U8, U16, U32, U64, F32, F64, Bool, String"

/-- The wording of an error. -/
def message : DeriveError → String
  | unknownKind name => s!"unknown record kind: '{name}'. Expected one of: {kindList}"
  | kindExpected => s!"expected a record kind or skip. Kinds: {kindList}"
  | textExpected => "expected a string literal"
  | unknownKey => "unknown attribute. Expected: rename or kind"
  | unknownEntry =>
    "unknown record attribute. Expected: a kind, skip, rename = \"...\", or kind = \"...\""
  | kindTwice => "record kind declared twice"
  | skippedKind => "a skipped field cannot declare a kind"
  | missingKind => "#[record(...)] needs a kind, e.g. #[record(I64)]"
  | duplicateName name => s!"duplicate record field name '{name}'"
  | fieldsNotNamed => "Record can only be derived for structs with named fields"
  | notStruct => "Record can only be derived for structs"
  | argumentsExpected => "expected attribute arguments in parentheses: #[record(...)]"
  | bracketsExpected => "expected parentheses: #[record(...)]"
  | malformed e => e.message
  | invalidConstant name => s!"'{name}' is not an identifier"

end DeriveError

/-- What an attribute declares of a field. -/
structure FieldAttribute where
  kind : Option FieldKind
  skip : Bool
  /-- The name under which the field is exposed, if it is not its own. -/
  rename : Option String
  deriving DecidableEq, Repr

namespace FieldAttribute

/-- The attribute that declares nothing. -/
def empty : FieldAttribute := ⟨none, false, none⟩

/-- Declares the kind with a name. A kind is declared once only. -/
def declareKind (a : FieldAttribute) (name : String) : Except DeriveError FieldAttribute :=
  match FieldKind.ofName? name with
  | none => .error (.unknownKind name)
  | some kind => if a.kind.isSome then .error .kindTwice else .ok { a with kind := some kind }

/-- What an attribute declares with one more entry. -/
def addEntry (a : FieldAttribute) : AttributeEntry → Except DeriveError FieldAttribute
  | .path p =>
    match p.name? with
    | none => .error .kindExpected
    | some name => if name = "skip" then .ok { a with skip := true } else a.declareKind name
  | .assignment _ .other => .error .textExpected
  | .assignment p (.text s) =>
    if p.name? = some "rename" then .ok { a with rename := some s }
    else if p.name? = some "kind" then a.declareKind s
    else .error .unknownKey
  | .call _ _ => .error .unknownEntry

/-- What a list of entries declares on top of `a`. -/
def addEntries (a : FieldAttribute) : List AttributeEntry → Except DeriveError FieldAttribute
  | [] => .ok a
  | entry :: rest =>
    match a.addEntry entry with
    | .error e => .error e
    | .ok a => a.addEntries rest

/-- What a list of entries declares. -/
def ofEntries (entries : List AttributeEntry) : Except DeriveError FieldAttribute :=
  match empty.addEntries entries with
  | .error e => .error e
  | .ok a => if a.skip && a.kind.isSome then .error .skippedKind else .ok a

/-- What the text of an attribute declares. -/
def ofText (text : String) : Except DeriveError FieldAttribute :=
  match AttributeEntry.ofText text with
  | .error e => .error (.malformed e)
  | .ok entries => ofEntries entries

end FieldAttribute

end RecordFilter
