import RecordFilter.Condition.Basic

/-!
# Equality of conditions

Two conditions are equal if they have the same shape and equal leaves, where values
compare as values do: a condition that names a value that is not a number differs even
from itself. This is coarser than identity in one place only, the sign of zero.

## Main definitions

* `Condition.equal`
-/

namespace RecordFilter.Condition

mutual

/-- Equality of conditions. -/
def equal : Condition → Condition → Bool
  | .always, .always => true
  | .never, .never => true
  | .comparison c, .comparison d => c.equal d
  | .conj terms, .conj others => equalTerms terms others
  | .disj terms, .disj others => equalTerms terms others
  | .invert inner, .invert other => inner.equal other
  | .fields constraints, .fields others => equalFields constraints others
  | .failure message, .failure other => message == other
  | _, _ => false

/-- Equality of terms, one by one. -/
def equalTerms : List Condition → List Condition → Bool
  | [], [] => true
  | t :: rest, u :: others => t.equal u && equalTerms rest others
  | _, _ => false

/-- Equality of constraints, one by one, names included. -/
def equalFields : List (String × Condition) → List (String × Condition) → Bool
  | [], [] => true
  | (name, constraint) :: rest, (otherName, otherConstraint) :: others =>
    name == otherName && constraint.equal otherConstraint && equalFields rest others
  | _, _ => false

end

end RecordFilter.Condition
