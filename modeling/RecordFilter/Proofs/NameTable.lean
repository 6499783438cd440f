import Mathlib.Data.Finset.Card
import RecordFilter.NameTable
import RecordFilter.Proofs.Text.ByteOrder

/-!
# Tables and their histories

A table forgets how it was made. What remains of a row of entries is the last one of each name,
in the order of names, and a sorted table is determined by what is found in it. So two rows make
one table exactly if they agree on the last entry of every name, and where no name occurs twice
the order of the row does not matter at all.

## Main definitions

* `NameTable.IsLast`: an entry of a row has no later one of its name

## Main results

* `NameTable.find?_ofList_eq_some_iff`: what is found in the table of a row
* `NameTable.Sorted.ext`: sorted tables in which the same is found are equal
* `NameTable.ofList_eq_ofList_iff`: which rows make one table
* `NameTable.length_ofList`: the number of names
-/

namespace RecordFilter.NameTable

variable {α : Type} {row other table : List (String × α)} {name key : String} {x y : α}

/-! ### Sorted tables -/

/-- The names of a sorted table are strictly increasing in the order of their bytes. -/
theorem Sorted.utf8Bytes_lt (sorted : Sorted table) :
    (table.map fun entry => Text.utf8Bytes entry.1).Pairwise (· < ·) := by
  apply List.pairwise_map.mpr
  exact List.Pairwise.imp (fun less => (Text.lt_iff_utf8Bytes_lt _ _).mp less) sorted

theorem Sorted.nodup_names (sorted : Sorted table) : (table.map Prod.fst).Nodup := by
  apply List.pairwise_map.mpr
  exact List.Pairwise.imp (fun less => ne_of_lt less) sorted

theorem mem_of_find? (found : find? name table = some x) : (name, x) ∈ table := by
  induction table with
  | nil => cases found
  | cons entry rest ih =>
    obtain ⟨key, y⟩ := entry
    rw [find?] at found
    split at found
    · next same =>
      cases found
      rw [same]
      exact List.mem_cons_self
    · exact List.mem_cons_of_mem _ (ih found)

/-- Where no name occurs twice, every entry is found under its name. -/
theorem find?_eq_some_iff (distinct : (table.map Prod.fst).Nodup) :
    find? name table = some x ↔ (name, x) ∈ table := by
  refine ⟨mem_of_find?, fun member => ?_⟩
  induction table with
  | nil => cases member
  | cons entry rest ih =>
    obtain ⟨key, y⟩ := entry
    obtain ⟨new, later⟩ := List.nodup_cons.mp distinct
    rw [find?]
    rcases List.mem_cons.mp member with same | among
    · cases same
      exact if_pos rfl
    · have different : name ≠ key := by
        rintro rfl
        exact new (List.mem_map.mpr ⟨_, among, rfl⟩)
      rw [if_neg different]
      exact ih later among

/-- A sorted table is determined by what is found in it. -/
theorem Sorted.ext (sorted : Sorted row) (otherSorted : Sorted other)
    (same : ∀ name, find? name row = find? name other) : row = other := by
  have members (entry : String × α) : entry ∈ row ↔ entry ∈ other := by
    rw [← find?_eq_some_iff sorted.nodup_names, ← find?_eq_some_iff otherSorted.nodup_names, same]
  have perm : row.Perm other := (List.perm_ext_iff_of_nodup sorted.nodup_names.of_map
    otherSorted.nodup_names.of_map).mpr members
  -- no two entries are before each other, so the order leaves no choice
  refine perm.eq_of_pairwise (fun a b _ _ before after => ?_) sorted otherSorted
  exact absurd after (lt_asymm before)

/-! ### Rows of entries -/

/-- The row has the entry, and behind it no other one of its name. -/
def IsLast (row : List (String × α)) (name : String) (x : α) : Prop :=
  ∃ before after, row = before ++ (name, x) :: after ∧ ∀ entry ∈ after, entry.1 ≠ name

theorem not_isLast_nil : ¬ IsLast [] name x := by
  rintro ⟨before, after, whole, -⟩
  simp at whole

/-- An entry at the end is the last one of its name, and no other name is touched by it. -/
theorem isLast_concat_iff :
    IsLast (row ++ [(key, y)]) name x ↔ if name = key then x = y else IsLast row name x := by
  constructor
  · rintro ⟨before, after, whole, noLater⟩
    rcases List.eq_nil_or_concat after with rfl | ⟨front, last, rfl⟩
    · obtain ⟨-, same⟩ := List.append_inj' whole rfl
      cases same
      simp
    · rw [List.concat_eq_append, ← List.cons_append, ← List.append_assoc] at whole
      obtain ⟨rest, same⟩ := List.append_inj' whole rfl
      cases same
      have different : key ≠ name := noLater (key, y) (by simp)
      rw [if_neg different.symm]
      exact ⟨before, front, rest, fun entry member => noLater entry (by simp [member])⟩
  · intro last
    split at last
    · next same =>
      subst same last
      exact ⟨row, [], rfl, by simp⟩
    · next different =>
      obtain ⟨before, after, rfl, noLater⟩ := last
      refine ⟨before, after ++ [(key, y)], by simp, fun entry member => ?_⟩
      rcases List.mem_append.mp member with among | atEnd
      · exact noLater entry among
      · rw [List.mem_singleton.mp atEnd]
        exact Ne.symm different

theorem ofList_concat (row : List (String × α)) (entry : String × α) :
    ofList (row ++ [entry]) = insert entry.1 entry.2 (ofList row) := by
  rw [ofList, List.foldl_concat]
  rfl

/-- The table of a row holds the last entry of each name. -/
theorem find?_ofList_eq_some_iff : find? name (ofList row) = some x ↔ IsLast row name x := by
  -- a row grows at its end, as the table does
  induction row using List.reverseRecOn with
  | nil => simpa [ofList, find?] using not_isLast_nil
  | append_singleton row entry ih =>
    rw [ofList_concat, find?_insert, isLast_concat_iff]
    split
    · rw [Option.some_inj, eq_comm]
    · exact ih

/-- Two rows make one table exactly if they agree on the last entry of every name. -/
theorem ofList_eq_ofList_iff :
    ofList row = ofList other ↔ ∀ name x, IsLast row name x ↔ IsLast other name x := by
  constructor
  · intro same name x
    rw [← find?_ofList_eq_some_iff, ← find?_ofList_eq_some_iff, same]
  · intro same
    refine (sorted_ofList row).ext (sorted_ofList other) fun name => Option.ext fun x => ?_
    rw [find?_ofList_eq_some_iff, find?_ofList_eq_some_iff, same]

theorem mem_ofList_iff : (name, x) ∈ ofList row ↔ IsLast row name x := by
  rw [← find?_eq_some_iff (sorted_ofList row).nodup_names, find?_ofList_eq_some_iff]

/-- Every name of a row has a last entry. -/
theorem exists_isLast_iff : (∃ x, IsLast row name x) ↔ name ∈ row.map Prod.fst := by
  induction row using List.reverseRecOn with
  | nil => simp [not_isLast_nil]
  | append_singleton row entry ih =>
    obtain ⟨key, y⟩ := entry
    simp only [isLast_concat_iff, List.map_append, List.map_singleton, List.mem_append,
      List.mem_singleton]
    by_cases same : name = key
    · simp [same]
    · simpa [same] using ih

/-- The names of a table are those of the row. -/
theorem mem_names_ofList_iff : name ∈ (ofList row).map Prod.fst ↔ name ∈ row.map Prod.fst := by
  refine Iff.trans ?_ exists_isLast_iff
  simp [mem_ofList_iff]

/-- The table of a row has as many entries as the row has names. -/
theorem length_ofList (row : List (String × α)) :
    (ofList row).length = (row.map Prod.fst).toFinset.card := by
  have names : ((ofList row).map Prod.fst).toFinset = (row.map Prod.fst).toFinset := by
    ext name
    rw [List.mem_toFinset, List.mem_toFinset, mem_names_ofList_iff]
  rw [← names, List.toFinset_card_of_nodup (sorted_ofList row).nodup_names, List.length_map]

/-- Where no name occurs twice, every entry is the last one of its name. -/
theorem isLast_iff_mem (distinct : (row.map Prod.fst).Nodup) :
    IsLast row name x ↔ (name, x) ∈ row := by
  constructor
  · rintro ⟨before, after, rfl, -⟩
    simp
  · intro member
    obtain ⟨before, after, rfl⟩ := List.append_of_mem member
    refine ⟨before, after, rfl, fun entry among same => ?_⟩
    rw [List.map_append, List.map_cons] at distinct
    have new := (List.nodup_cons.mp (List.Nodup.of_append_right distinct)).1
    exact new (List.mem_map.mpr ⟨entry, among, same⟩)

/-- Where no name occurs twice, the table of a row holds what the row does. -/
theorem find?_ofList_of_nodup (distinct : (row.map Prod.fst).Nodup) (name : String) :
    find? name (ofList row) = find? name row := by
  refine Option.ext fun x => ?_
  rw [find?_ofList_eq_some_iff, isLast_iff_mem distinct, find?_eq_some_iff distinct]

/-- A sorted row is its own table. -/
theorem Sorted.ofList_eq (sorted : Sorted row) : ofList row = row :=
  (sorted_ofList row).ext sorted (find?_ofList_of_nodup sorted.nodup_names)

/-- Where no name occurs twice, the order of a row does not matter. -/
theorem ofList_perm (perm : other.Perm row) (distinct : (row.map Prod.fst).Nodup) :
    ofList other = ofList row := by
  have otherDistinct : (other.map Prod.fst).Nodup := (perm.map Prod.fst).nodup_iff.mpr distinct
  refine ofList_eq_ofList_iff.mpr fun name x => ?_
  rw [isLast_iff_mem otherDistinct, isLast_iff_mem distinct, perm.mem_iff]

end RecordFilter.NameTable
