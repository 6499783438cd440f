import Mathlib.Data.List.Lex
import Mathlib.Data.String.Basic

/-!
# The order of bytes

Texts are ordered by code points, and this is the order of their UTF-8 bytes. The bytes of two
different characters differ at some place that both have, and there the smaller character has the
smaller byte. What comes behind that place has no influence, so it does not matter that
characters are encoded in rows of different lengths.

## Main definitions

* `Text.utf8Bytes`: the bytes of a text
* `Text.Precedes`: the first difference of two rows of bytes

## Main results

* `Text.precedes_utf8EncodeChar`: characters are encoded in their order
* `Text.lt_iff_utf8Bytes_lt`: texts are ordered as their bytes
-/

namespace RecordFilter.Text

/-- The UTF-8 bytes of a text. -/
def utf8Bytes (s : String) : List UInt8 := s.toUTF8.data.toList

/-- Two rows of bytes differ at a place that both have, and the first row has the smaller byte
where they differ first. -/
inductive Precedes : List UInt8 → List UInt8 → Prop
  | here {x y : UInt8} {xs ys : List UInt8} (less : x < y) : Precedes (x :: xs) (y :: ys)
  | later {x y : UInt8} {xs ys : List UInt8} (same : x = y) (rest : Precedes xs ys) :
      Precedes (x :: xs) (y :: ys)

/-- What stands behind the first difference does not matter. -/
theorem Precedes.append_lt {xs ys : List UInt8} (first : Precedes xs ys) (us vs : List UInt8) :
    xs ++ us < ys ++ vs := by
  induction first with
  | here less => exact .rel less
  | later same _ ih =>
    subst same
    exact .cons ih

section

variable {m n : Nat} {xs ys : List UInt8}

/-- A smaller byte settles the order. -/
theorem Precedes.of_lt (small : n < 256) (less : m < n) :
    Precedes (UInt8.ofNat m :: xs) (UInt8.ofNat n :: ys) := by
  apply Precedes.here
  rw [UInt8.lt_iff_toNat_lt, UInt8.toNat_ofNat', UInt8.toNat_ofNat']
  omega

/-- A byte that is no greater settles the order, or leaves it to the bytes behind it. -/
theorem Precedes.of_le (small : n < 256) (le : m ≤ n) (rest : m = n → Precedes xs ys) :
    Precedes (UInt8.ofNat m :: xs) (UInt8.ofNat n :: ys) := by
  rcases Nat.lt_or_eq_of_le le with less | same
  · exact .of_lt small less
  · exact .later (congrArg UInt8.ofNat same) (rest same)

end

/-- The smaller of two characters has the smaller byte where their encodings differ first. -/
theorem precedes_utf8EncodeChar {c d : Char} (less : c < d) :
    Precedes (String.utf8EncodeChar c) (String.utf8EncodeChar d) := by
  have code : c.val.toNat < d.val.toNat := UInt32.lt_iff_toNat_lt.mp less
  have bound : d.val.toNat < 1114112 := by
    have valid := d.valid
    simp only [UInt32.isValidChar, Nat.isValidChar] at valid
    omega
  unfold String.utf8EncodeChar
  generalize c.val.toNat = m at code
  generalize d.val.toNat = n at code bound
  dsimp only
  -- The encoding of the smaller number is no longer. A shorter one has the smaller first byte;
  -- in one of the same length the bytes are digits, the most significant first.
  split
  · split
    · exact .of_lt (by omega) (by omega)
    · split
      · exact .of_lt (by omega) (by omega)
      · split <;> exact .of_lt (by omega) (by omega)
  · rw [if_neg (show ¬ n ≤ 127 by omega)]
    split
    · split
      · exact .of_le (by omega) (by omega) fun _ => .of_lt (by omega) (by omega)
      · split <;> exact .of_lt (by omega) (by omega)
    · rw [if_neg (show ¬ n ≤ 2047 by omega)]
      split
      · split
        · exact .of_le (by omega) (by omega) fun _ => .of_le (by omega) (by omega) fun _ =>
            .of_lt (by omega) (by omega)
        · exact .of_lt (by omega) (by omega)
      · rw [if_neg (show ¬ n ≤ 65535 by omega)]
        exact .of_le (by omega) (by omega) fun _ => .of_le (by omega) (by omega) fun _ =>
          .of_le (by omega) (by omega) fun _ => .of_lt (by omega) (by omega)

/-! ### Texts -/

/-- The bytes of a text are those of its characters, one after the other. -/
theorem utf8Bytes_eq_flatMap (s : String) :
    utf8Bytes s = s.toList.flatMap String.utf8EncodeChar := by
  have encoded : s.toByteArray = s.toList.utf8Encode := by
    rw [← String.toByteArray_ofList, String.ofList_toList]
  rw [utf8Bytes, String.toUTF8_eq_toByteArray, encoded, List.utf8Encode, List.data_toByteArray]

/-- Rows of characters in order are encoded as rows of bytes in order. -/
theorem flatMap_utf8EncodeChar_lt {cs ds : List Char} (less : cs < ds) :
    cs.flatMap String.utf8EncodeChar < ds.flatMap String.utf8EncodeChar := by
  induction less with
  | @nil d ds =>
    obtain ⟨x, xs, encoded⟩ := List.exists_cons_of_ne_nil (String.utf8EncodeChar_ne_nil (c := d))
    rw [List.flatMap_nil, List.flatMap_cons, encoded]
    exact .nil
  | rel first =>
    rw [List.flatMap_cons, List.flatMap_cons]
    exact (precedes_utf8EncodeChar first).append_lt _ _
  | cons _ ih =>
    rw [List.flatMap_cons, List.flatMap_cons]
    exact List.append_left_lt ih

/-- Texts are ordered as their bytes. -/
theorem lt_iff_utf8Bytes_lt (s t : String) : s < t ↔ utf8Bytes s < utf8Bytes t := by
  have forward {s t : String} (less : s < t) : utf8Bytes s < utf8Bytes t := by
    rw [utf8Bytes_eq_flatMap, utf8Bytes_eq_flatMap]
    exact flatMap_utf8EncodeChar_lt (String.lt_iff_toList_lt.mp less)
  refine ⟨forward, fun less => ?_⟩
  by_contra notLess
  rcases lt_or_eq_of_le (String.not_lt.mp notLess) with greater | same
  · exact List.lt_asymm less (forward greater)
  · rw [same] at less
    exact List.lt_irrefl _ less

end RecordFilter.Text
