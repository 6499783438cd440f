/-!
# Patterns and engines

A pattern is kept as it was written. What it means is up to an engine: which patterns are well
formed, and in which texts a well formed one occurs. Conditions are evaluated with any engine.

## Main definitions

* `Pattern`
* `Pattern.Engine`: the meaning of patterns
* `Pattern.isValid`: whether a pattern is well formed
-/

namespace RecordFilter

/-- A regular expression as it was written. -/
structure Pattern where
  source : String
  deriving DecidableEq, Repr

namespace Pattern

/-- A way to search texts for patterns. -/
class Engine where
  /-- The texts that a pattern occurs in, if it is well formed. -/
  search? : Pattern → Option (String → Bool)

/-- Whether a pattern is well formed. -/
def isValid [Engine] (p : Pattern) : Bool := (Engine.search? p).isSome

end Pattern

end RecordFilter
