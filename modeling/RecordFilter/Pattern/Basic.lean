import RecordFilter.Pattern.Engine
import RecordFilter.Pattern.Search
import RecordFilter.Pattern.Symbol

/-!
# Reading patterns

An engine for patterns. It takes those that can be read as regular expressions of bounded
depth and size, and searches for the expression that they spell.

## Main definitions

* `Pattern.Part`: an expression with its depth and size
* `Pattern.Part.ofSymbols?`: the expression that a row of symbols spells
* `Pattern.expr?`: the expression that a pattern spells, and the engine that searches for it
-/

namespace RecordFilter

namespace Pattern

/-! ### Parts -/

/-- An expression, how deeply its parts are nested as it is written, and how much room it
takes with its repetitions written out. -/
structure Part where
  expr : Expr
  depth : Nat
  weight : Nat
  deriving DecidableEq, Repr

namespace Part

/-- The part that matches the empty text. -/
def empty : Part := ⟨.empty, 0, 32⟩

/-- The greatest room that a set takes, however it is put together. -/
def greatestSetWeight : Nat := Nat.pow 2 16

/-- A set of characters. One character takes less room than a set. -/
def ofSet (s : CharSet) (depth : Nat) : Part :=
  let weight := match s with
    | .range first last => if first = last then 32 * first.utf8Size else 64 + s.weight
    | s => 64 + min s.weight greatestSetWeight
  ⟨.set s, depth, weight⟩

/-- A condition on a position. -/
def ofAssertion (a : Assertion) : Part := ⟨.assertion a, 0, 32⟩

/-- A repetition. What takes no characters is not written out more than once. -/
def repeated (p : Part) (least : Nat) (most : Option Nat) : Part :=
  let rounds := if p.expr.takesNothing then min least 1 else least
  let more := match most with
    | none => if rounds = 0 then p.weight + 40 else 40
    | some most => if p.expr.takesNothing then 40 else (most - least) * (p.weight + 40)
  ⟨.repeated p.expr least most, p.depth + 1, rounds * p.weight + more⟩

/-- A group. One that is remembered takes room of its own. -/
def group (p : Part) (o : Opening) : Part :=
  let own := match o with
    | .captured _ => 64
    | .plain _ => 0
  { p with depth := p.depth + 1, weight := p.weight + own }

end Part

/-! ### Groups -/

/-- A group whose closing parenthesis has not been read. -/
structure OpenGroup where
  opening : Opening
  /-- The settings in force after the group. -/
  settingsAfter : Settings
  /-- The finished choices, last first. -/
  choices : List Part
  /-- The parts of the current choice, last first. A change of settings leaves a gap, which
  cannot be repeated. -/
  items : List (Option Part)

namespace OpenGroup

/-- A group of which nothing has been read. -/
def new (o : Opening) (settingsAfter : Settings) : OpenGroup := ⟨o, settingsAfter, [], []⟩

/-- The current choice as a part. A row of several parts is one level deeper than they
are. -/
def currentChoice (g : OpenGroup) : Part :=
  let parts := g.items.reverse.filterMap id
  match g.items with
  | [] | [none] => .empty
  | [some p] => p
  | _ =>
    ⟨.sequenceOf (parts.map Part.expr), (parts.map Part.depth).foldl max 0 + 1,
      (parts.map Part.weight).foldl (· + ·) 0⟩

/-- All choices as one part, once the last of them is read. -/
def body (g : OpenGroup) : Part :=
  let last := g.currentChoice
  if g.choices.isEmpty then last
  else
    ⟨g.choices.foldl (fun later p => .choice p.expr later) last.expr,
      (g.choices.map Part.depth).foldl max last.depth + 1,
      (g.choices.map fun p => p.weight + 40).foldl (· + ·) last.weight + 40⟩

/-- Adds a part to the current choice. -/
def push (g : OpenGroup) (p : Part) : OpenGroup := { g with items := some p :: g.items }

/-- Ends the current choice. -/
def endChoice (g : OpenGroup) : OpenGroup :=
  { g with choices := g.currentChoice :: g.choices, items := [] }

end OpenGroup

namespace Part

/-- Builds the part of the symbols that are left, where `outer` are the groups around the
current one, innermost first. -/
def build? (s : Settings) (group : OpenGroup) (outer : List OpenGroup) :
    List Symbol → Option Part
  | [] => if outer.isEmpty then some group.body else none
  | .literal c byte :: rest =>
    match s.literal? c byte with
    | some set => build? s (group.push (.ofSet set 0)) outer rest
    | none => none
  | .dot :: rest =>
    match s.dot? with
    | some set => build? s (group.push (.ofSet set 0)) outer rest
    | none => none
  | .set t :: rest =>
    match t.resolve? s with
    | some set => build? s (group.push (.ofSet set t.depth)) outer rest
    | none => none
  | .anchor a :: rest => build? s (group.push (.ofAssertion (s.assertion a))) outer rest
  | .opening o :: rest =>
    let inner := match o with
      | .captured _ => s
      | .plain changes => s.apply changes
    build? inner (.new o s) (group :: outer) rest
  | .closing :: rest =>
    match outer with
    | [] => none
    | enclosing :: outer =>
      build? group.settingsAfter (enclosing.push (group.body.group group.opening)) outer rest
  | .bar :: rest => build? s group.endChoice outer rest
  | .settings changes :: rest =>
    build? (s.apply changes) { group with items := none :: group.items } outer rest
  | .repetition least most :: rest =>
    -- only the part right before it is repeated
    match group.items with
    | some p :: items =>
      build? s { group with items := some (p.repeated least most) :: items } outer rest
    | _ => none

/-- The part that a row of symbols spells. Two groups cannot share a name. -/
def ofSymbols? (symbols : List Symbol) : Option Part :=
  let names := symbols.filterMap fun
    | .opening (.captured name) => name
    | _ => none
  if names.Nodup then build? .initial (.new (.plain []) .initial) [] symbols else none

end Part

/-- The depth to which the parts of a pattern can be nested. -/
def greatestDepth : Nat := 250

/-- The room that a pattern can take. -/
def greatestWeight : Nat := 10 * Nat.pow 2 20

/-- The expression that a pattern spells, if it is well formed and not too large. -/
def expr? (p : Pattern) : Option Expr := do
  let part ← (readSymbols? p.source.toList).bind Part.ofSymbols?
  if part.depth ≤ greatestDepth ∧ part.weight ≤ greatestWeight then some part.expr else none

instance : Engine where
  search? p := p.expr?.map Expr.occursIn

end Pattern

end RecordFilter
