import RecordFilter.Sample.Task

/-!
# A record with fields of every kind

Most fields are exposed with a wider kind than they are stored with: integers of a smaller
range, truth values as numbers, characters as code points or as texts.

## Main definitions

* `IntKind.Within`: the ranges that a range includes
* `Wide`
-/

namespace RecordFilter

/-- Every integer of the first kind is one of the second. -/
def IntKind.Within (k l : IntKind) : Prop := l.lowest ≤ k.lowest ∧ k.highest ≤ l.highest

instance (k l : IntKind) : Decidable (k.Within l) := inferInstanceAs (Decidable (_ ∧ _))

/-- An integer as a value of a kind that includes its own. -/
def FixedInt.widened {k : IntKind} (x : FixedInt k) (l : IntKind) (h : k.Within l) : Value :=
  .int l x.n ⟨Int.le_trans h.1 x.inRange.1, Int.le_trans x.inRange.2 h.2⟩

/-- A record that exposes fields of all twelve kinds. -/
structure Wide where
  a : FixedInt .i8
  b : FixedInt .i8
  c : FixedInt .u16
  d : FixedInt .u32
  e : FixedInt .u8
  f : Bool
  g : Char
  h : FixedInt .u8
  i : FixedInt .i16
  j : Binary .single
  k : Bool
  l : Char
  deriving DecidableEq, Repr

namespace Wide

/-- A code point fits into 32 bits. -/
theorem contains_codePoint (c : Char) : IntKind.u32.Contains c.toNat := by
  have bound : c.toNat < 2 ^ 32 := c.val.toNat_lt
  constructor
  · exact Int.natCast_nonneg _
  · exact Int.le_sub_one_of_lt (Int.ofNat_lt.mpr bound)

/-- A truth value as a number. -/
def truthNumber (b : Bool) : Value :=
  if b then .int .u16 1 (by decide) else .int .u16 0 (by decide)

/-- The exposed fields. -/
def schema : Schema :=
  .ofList [("a", .int .i8), ("b", .int .i16), ("c", .int .i32), ("d", .int .i64),
    ("e", .int .u8), ("f", .int .u16), ("g", .int .u32), ("h", .int .u64), ("i", .single),
    ("j", .double), ("isOn", .bool), ("label_2", .text)]

/-- The value of an exposed field. -/
def field? (w : Wide) (name : String) : Option Value :=
  match name with
  | "a" => some (Scalar.toValue w.a)
  | "b" => some (w.b.widened .i16 (by decide))
  | "c" => some (w.c.widened .i32 (by decide))
  | "d" => some (w.d.widened .i64 (by decide))
  | "e" => some (Scalar.toValue w.e)
  | "f" => some (truthNumber w.f)
  | "g" => some (.int .u32 w.g.toNat (contains_codePoint w.g))
  | "h" => some (w.h.widened .u64 (by decide))
  | "i" => some (.single (.nearest _ (w.i.n < 0) w.i.n.natAbs))
  | "j" => some (.double w.j.widen)
  | "isOn" => some (Scalar.toValue w.k)
  | "label_2" => some (.text w.l.toString)
  | _ => none

instance : Described Wide where
  toRecord w := ⟨w.field?, none⟩
  schema := schema

end Wide

end RecordFilter
