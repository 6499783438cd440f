import RecordFilter.CharSet

/-!
# Settings of a pattern

A pattern can change how the rest of it is read: whether case counts, what a line is, and
whether characters outside of ASCII have the properties that Unicode gives them. What a
dot, an anchor or a literal stands for depends on the settings in force.

## Main definitions

* `Pattern.Setting`, `Pattern.Settings`
* `Pattern.Anchor`: conditions on a position as they are written
* `Pattern.Assertion`: conditions on a position, independent of settings
* `Pattern.Settings.dot?`, `Pattern.Settings.assertion`, `Pattern.Settings.literal?`
-/

namespace RecordFilter.Pattern

/-- What can be switched on and off. -/
inductive Setting where
  /-- Case does not count. -/
  | caseless
  /-- Anchors of lines hold at every line. -/
  | multiLine
  /-- A dot stands for line ends, too. -/
  | dotAll
  /-- Repetitions prefer few rounds. -/
  | preferFewer
  /-- Properties of characters are those of Unicode. -/
  | unicode
  /-- A carriage return ends a line. -/
  | carriageReturn
  /-- White space and comments are no part of the pattern. -/
  | verbose
  deriving DecidableEq, Repr

/-- The setting that a letter stands for. -/
def Setting.ofChar? : Char → Option Setting
  | 'i' => some caseless
  | 'm' => some multiLine
  | 's' => some dotAll
  | 'U' => some preferFewer
  | 'u' => some unicode
  | 'R' => some carriageReturn
  | 'x' => some verbose
  | _ => none

/-- Settings to be switched on or off, in order. -/
abbrev Changes := List (Setting × Bool)

/-- Whether white space is skipped once the changes are made. -/
def Changes.verbose (changes : Changes) (before : Bool) : Bool :=
  (changes.lookup .verbose).getD before

/-- Parts of a word's edge. -/
inductive WordEdge where
  /-- A word character on one side only. -/
  | boundary
  | notBoundary
  /-- A word character after the position, and none before it. -/
  | wordStart
  /-- A word character before the position, and none after it. -/
  | wordEnd
  /-- No word character before the position. -/
  | notAfterWord
  /-- No word character after the position. -/
  | notBeforeWord
  deriving DecidableEq, Repr

/-- Whether there is an edge between two characters, given which of them are word
characters. -/
def WordEdge.holds (before after : Bool) : WordEdge → Bool
  | boundary => before != after
  | notBoundary => before == after
  | wordStart => !before && after
  | wordEnd => before && !after
  | notAfterWord => !before
  | notBeforeWord => !after

/-- A condition on a position as it is written. -/
inductive Anchor where
  | textStart
  | textEnd
  | lineStart
  | lineEnd
  | edge (e : WordEdge)
  deriving DecidableEq, Repr

/-- A condition on a position in a text. -/
inductive Assertion where
  /-- The beginning of the text. -/
  | textStart
  /-- The very end of the text. -/
  | textEnd
  /-- The beginning of a line. -/
  | lineStart (carriageReturn : Bool)
  /-- The end of a line. -/
  | lineEnd (carriageReturn : Bool)
  /-- The edge of a word, which may be limited to ASCII. -/
  | edge (e : WordEdge) (ascii : Bool)
  deriving DecidableEq, Repr

/-- The settings in force at some place of a pattern. -/
structure Settings where
  caseless : Bool
  multiLine : Bool
  dotAll : Bool
  unicode : Bool
  carriageReturn : Bool
  deriving DecidableEq, Repr

namespace Settings

/-- The settings at the beginning of a pattern. -/
def initial : Settings := ⟨false, false, false, true, false⟩

/-- Switches a setting on or off. The layout of the pattern and the preference between
repetitions do not change what the parts of a pattern stand for. -/
def change (s : Settings) (setting : Setting) (on : Bool) : Settings :=
  match setting with
  | .caseless => { s with caseless := on }
  | .multiLine => { s with multiLine := on }
  | .dotAll => { s with dotAll := on }
  | .unicode => { s with unicode := on }
  | .carriageReturn => { s with carriageReturn := on }
  | .preferFewer | .verbose => s

/-- Makes some changes in order. -/
def apply (s : Settings) (changes : Changes) : Settings :=
  changes.foldl (fun s (setting, on) => s.change setting on) s

/-- What a dot stands for: every character, or every one that ends no line. Outside of
Unicode it would stand for parts of characters, too. -/
def dot? (s : Settings) : Option CharSet :=
  if !s.unicode then none
  else if s.dotAll then some .full
  else if s.carriageReturn then some (.complement (.unions [.single '\n', .single '\r']))
  else some (.complement (.single '\n'))

/-- What an anchor stands for. -/
def assertion (s : Settings) : Anchor → Assertion
  | .textStart => .textStart
  | .textEnd => .textEnd
  | .lineStart => if s.multiLine then .lineStart s.carriageReturn else .textStart
  | .lineEnd => if s.multiLine then .lineEnd s.carriageReturn else .textEnd
  | .edge e => .edge e !s.unicode

/-- The set together with the other cases of its members, if case does not count. -/
def foldCase (s : Settings) (set : CharSet) : CharSet :=
  if s.caseless then set.foldCase s.unicode else set

/-- What a literal stands for. Outside of Unicode, `byte` literals cannot leave ASCII. -/
def literal? (s : Settings) (c : Char) (byte : Bool) : Option CharSet :=
  if !s.unicode && byte && 128 ≤ c.toNat then none
  else if s.caseless then some (.unions ((CharSet.caseVariants s.unicode c).map .single))
  else some (.single c)

end Settings

end RecordFilter.Pattern
