/-!
# Tables ordered by name

A table of named entries is a list in strictly increasing order of names, so it holds a
name at most once and can be compared as a list. Names are ordered by code points, which
is the order of their UTF-8 bytes.

## Main definitions

* `NameTable.insert`: adds an entry, or replaces the one with its name
* `NameTable.find?`: the entry with a name
* `NameTable.ofList`: a table from entries in any order, the last one of a name winning
* `NameTable.Sorted`: the order of names that all of these keep

## Main results

* `NameTable.sorted_insert`, `NameTable.sorted_ofList`: tables stay sorted
* `NameTable.find?_insert`: an insertion changes the entry of its own name only
-/

namespace RecordFilter.NameTable

variable {α : Type}

/-- Adds an entry at its place, or replaces the entry that has its name. -/
def insert (name : String) (x : α) : List (String × α) → List (String × α)
  | [] => [(name, x)]
  | (other, y) :: rest =>
    if name < other then (name, x) :: (other, y) :: rest
    else if name = other then (name, x) :: rest
    else (other, y) :: insert name x rest

/-- The entry with the given name. -/
def find? (name : String) : List (String × α) → Option α
  | [] => none
  | (other, y) :: rest => if name = other then some y else find? name rest

/-- The table of the given entries. Of two entries with one name the later stays. -/
def ofList (entries : List (String × α)) : List (String × α) :=
  entries.foldl (fun table entry => insert entry.1 entry.2 table) []

/-- The names of a table are strictly increasing. -/
def Sorted (table : List (String × α)) : Prop := table.Pairwise fun a b => a.1 < b.1

theorem mem_insert {name : String} {x : α} {table : List (String × α)} {entry : String × α}
    (h : entry ∈ insert name x table) : entry = (name, x) ∨ entry ∈ table := by
  induction table with
  | nil => simpa [insert] using h
  | cons head rest ih =>
    obtain ⟨other, y⟩ := head
    rw [insert] at h
    split at h
    · simpa using h
    · split at h
      · rcases List.mem_cons.mp h with rfl | later
        · exact Or.inl rfl
        · exact Or.inr (List.mem_cons_of_mem _ later)
      · rcases List.mem_cons.mp h with rfl | later
        · exact Or.inr List.mem_cons_self
        · exact (ih later).imp_right (List.mem_cons_of_mem _)

theorem sorted_nil : Sorted ([] : List (String × α)) := List.Pairwise.nil

/-- Insertion keeps a table sorted. -/
theorem sorted_insert (name : String) (x : α) {table : List (String × α)}
    (h : Sorted table) : Sorted (insert name x table) := by
  induction table with
  | nil => exact List.pairwise_singleton _ _
  | cons head rest ih =>
    obtain ⟨other, y⟩ := head
    obtain ⟨first, later⟩ := List.pairwise_cons.mp h
    rw [insert]
    split
    · next before =>
      refine List.pairwise_cons.mpr ⟨fun entry member => ?_, h⟩
      rcases List.mem_cons.mp member with rfl | tail
      · exact before
      · exact String.lt_trans before (first entry tail)
    · next notBefore =>
      split
      · next same => subst same; exact List.pairwise_cons.mpr ⟨first, later⟩
      · next different =>
        refine List.pairwise_cons.mpr ⟨fun entry member => ?_, ih later⟩
        rcases mem_insert member with rfl | tail
        · exact Decidable.byContradiction fun notAfter =>
            different (String.le_antisymm (String.not_lt.mp notAfter) (String.not_lt.mp notBefore))
        · exact first entry tail

/-- A table collected from any entries is sorted. -/
theorem sorted_ofList (entries : List (String × α)) : Sorted (ofList entries) := by
  suffices general : ∀ (entries table : List (String × α)), Sorted table →
      Sorted (entries.foldl (fun table entry => insert entry.1 entry.2 table) table) from
    general entries [] sorted_nil
  intro entries
  induction entries with
  | nil => exact fun _ h => h
  | cons entry rest ih => exact fun table h => ih _ (sorted_insert entry.1 entry.2 h)

/-- An insertion is seen under its own name and under no other. -/
theorem find?_insert (name other : String) (x : α) (table : List (String × α)) :
    find? other (insert name x table) = if other = name then some x else find? other table := by
  induction table with
  | nil => simp [insert, find?]
  | cons head rest ih =>
    obtain ⟨key, y⟩ := head
    rw [insert]
    split
    · simp [find?]
    · split
      · next same => subst same; by_cases h : other = name <;> simp [find?, h]
      · next different =>
        by_cases h : other = key
        · subst h; simp [find?, Ne.symm different]
        · simp [find?, h, ih]

end RecordFilter.NameTable
