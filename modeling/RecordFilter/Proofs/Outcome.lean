import Mathlib.Data.List.Forall2

/-!
# Outcomes of steps

A computation that can fail gives a result exactly if each of its steps does. What it makes of the
items of a list, one by one, corresponds to the items.

## Main results

* `bind_eq_ok_iff`, `map_eq_ok_iff`, `map_eq_error_iff`: outcomes of one step after another
* `forall₂_of_mapM`: outcomes of one step for each item
-/

namespace RecordFilter

variable {ε α β : Type} {x : Except ε α}

theorem bind_eq_ok_iff {f : α → Except ε β} {b : β} :
    x >>= f = .ok b ↔ ∃ a, x = .ok a ∧ f a = .ok b := by
  cases x <;> simp [bind, Except.bind]

theorem map_eq_ok_iff {g : α → β} {b : β} : x.map g = .ok b ↔ ∃ a, x = .ok a ∧ g a = b := by
  cases x <;> simp [Except.map]

theorem map_eq_error_iff {g : α → β} {e : ε} : x.map g = .error e ↔ x = .error e := by
  cases x <;> simp [Except.map]

/-- If a list is gone through to its end, then what was made corresponds to the items. -/
theorem forall₂_of_mapM {f : α → Except ε β} {items : List α} {made : List β}
    {property : β → α → Prop} (each : ∀ a ∈ items, ∀ b, f a = .ok b → property b a)
    (all : items.mapM f = .ok made) : List.Forall₂ property made items := by
  induction items generalizing made with
  | nil =>
    cases all
    exact .nil
  | cons a rest ih =>
    obtain ⟨eachFirst, eachLater⟩ := List.forall_mem_cons.mp each
    rw [List.mapM_cons] at all
    obtain ⟨b, first, all⟩ := bind_eq_ok_iff.mp all
    obtain ⟨more, later, all⟩ := bind_eq_ok_iff.mp all
    cases all
    exact .cons (eachFirst b first) (ih eachLater later)

end RecordFilter
