/-!
# Kinds of values

Every value has a kind, and every kind fixes a width: an 8-bit integer and a 64-bit
integer with the same digits are different values. Kinds are written in lowercase and
have a few longer spellings.

## Main definitions

* `IntKind`: the eight integer kinds, with the range `IntKind.Contains` of each
* `Kind`: the twelve kinds
* `Kind.ofName?`: a kind from its name, in any case
* `Kind.documentName`: the name that a kind has in documents
* `Kind.ofDocumentName?`: a kind from its name in a document, where case counts

## Main results

* `Kind.documentName_eq_name`: kinds have their canonical names in documents
* `Kind.ofDocumentName?_eq`: documents know the kinds by these names and their aliases
-/

namespace RecordFilter

/-- The kinds of integers, by signedness and width in bits. -/
inductive IntKind where
  | i8 | i16 | i32 | i64 | u8 | u16 | u32 | u64
  deriving DecidableEq, Repr

namespace IntKind

/-- The integer kinds in the order in which they are listed. -/
def all : List IntKind := [i8, i16, i32, i64, u8, u16, u32, u64]

/-- Whether values of the kind may be negative. -/
def signed : IntKind → Bool
  | i8 | i16 | i32 | i64 => true
  | u8 | u16 | u32 | u64 => false

/-- The number of bits of the kind. -/
def width : IntKind → Nat
  | i8 | u8 => 8
  | i16 | u16 => 16
  | i32 | u32 => 32
  | i64 | u64 => 64

/-- The least integer of the kind. -/
def lowest (k : IntKind) : Int :=
  if k.signed then -Nat.pow 2 (k.width - 1) else 0

/-- The greatest integer of the kind. -/
def highest (k : IntKind) : Int :=
  if k.signed then Nat.pow 2 (k.width - 1) - 1 else Nat.pow 2 k.width - 1

/-- The integers of the kind. -/
def Contains (k : IntKind) (n : Int) : Prop := k.lowest ≤ n ∧ n ≤ k.highest

instance (k : IntKind) (n : Int) : Decidable (k.Contains n) :=
  inferInstanceAs (Decidable (_ ∧ _))

/-- The canonical name: a letter for the signedness, then the width. -/
def name : IntKind → String
  | i8 => "i8"
  | i16 => "i16"
  | i32 => "i32"
  | i64 => "i64"
  | u8 => "u8"
  | u16 => "u16"
  | u32 => "u32"
  | u64 => "u64"

theorem mem_all (k : IntKind) : k ∈ all := by cases k <;> decide

/-- An unsigned kind holds no negative integer. -/
theorem nonneg_of_contains {k : IntKind} {n : Int} (unsigned : k.signed = false)
    (h : k.Contains n) : 0 ≤ n := by
  have lower := h.1
  simpa [lowest, unsigned] using lower

end IntKind

/-- What a value is: an integer of some width, a binary floating-point number of single
or double precision, a truth value or a text. -/
inductive Kind where
  | int (k : IntKind)
  | single
  | double
  | bool
  | text
  deriving DecidableEq, Repr

namespace Kind

/-- The kinds in the order in which they are listed. -/
def all : List Kind := IntKind.all.map int ++ [single, double, bool, text]

/-- The integer kinds. -/
def isInteger : Kind → Bool
  | int _ => true
  | _ => false

/-- The two floating-point kinds. -/
def isFloat : Kind → Bool
  | single | double => true
  | _ => false

/-- Only truth values have no order. -/
def isOrdered : Kind → Bool
  | bool => false
  | _ => true

/-- The canonical name of a kind. -/
def name : Kind → String
  | int k => k.name
  | single => "f32"
  | double => "f64"
  | bool => "bool"
  | text => "string"

/-- The constructor of a kind, as documents know it. -/
def variant : Kind → String
  | int .i8 => "I8"
  | int .i16 => "I16"
  | int .i32 => "I32"
  | int .i64 => "I64"
  | int .u8 => "U8"
  | int .u16 => "U16"
  | int .u32 => "U32"
  | int .u64 => "U64"
  | single => "F32"
  | double => "F64"
  | bool => "Bool"
  | text => "String"

/-- The name of a kind in documents: its constructor, in lowercase. -/
def documentName (k : Kind) : String := k.variant.toLower

/-- The other spellings of a kind. -/
def aliases : Kind → List String
  | int .i8 => ["int8"]
  | int .i16 => ["int16"]
  | int .i32 => ["int32"]
  | int .i64 => ["int64", "int"]
  | int .u8 => ["uint8"]
  | int .u16 => ["uint16"]
  | int .u32 => ["uint32"]
  | int .u64 => ["uint64", "uint"]
  | single => ["float32"]
  | double => ["float64", "float"]
  | bool => ["boolean"]
  | text => ["str"]

/-- The kind that a document means by a name. Documents are exact: only their own names of
the kinds and the aliases are read, in lowercase. -/
def ofDocumentName? (s : String) : Option Kind :=
  all.find? fun k => s == k.documentName || k.aliases.contains s

/-- The kind that a name means when the case of ASCII letters does not count. -/
def ofName? (s : String) : Option Kind :=
  match s.toLower with
  | "i8" | "int8" => some (int .i8)
  | "i16" | "int16" => some (int .i16)
  | "i32" | "int32" => some (int .i32)
  | "i64" | "int64" | "int" => some (int .i64)
  | "u8" | "uint8" => some (int .u8)
  | "u16" | "uint16" => some (int .u16)
  | "u32" | "uint32" => some (int .u32)
  | "u64" | "uint64" | "uint" => some (int .u64)
  | "f32" | "float32" => some single
  | "f64" | "float64" | "float" => some double
  | "bool" | "boolean" => some bool
  | "string" | "str" => some text
  | _ => none

/-- What is said of a name that no kind has; the name is cited as it was given. -/
def unknownMessage (name : String) : String := s!"unknown kind '{name}'"

theorem mem_all (k : Kind) : k ∈ all := by
  cases k with
  | int k => cases k <;> decide
  | _ => decide

/-- The constructors are called as the kinds are, but for capitals. -/
theorem documentName_eq_name (k : Kind) : k.documentName = k.name := by
  have table : ∀ k ∈ all, k.documentName = k.name := by decide +kernel
  exact table k k.mem_all

/-- In documents a kind is found by its canonical name or an alias. -/
theorem ofDocumentName?_eq (s : String) :
    ofDocumentName? s = all.find? fun k => s == k.name || k.aliases.contains s := by
  simp only [ofDocumentName?, documentName_eq_name]

end Kind

end RecordFilter
