import RecordFilter.Proofs.Derive.Exposure
import RecordFilter.Proofs.KindNames

/-!
# Accepted attributes

Entries of an attribute are added one by one, and each is judged in view of those before it: most
offend on their own, and a second kind offends after a first. The row is accepted if every entry is
known, one at most declares a kind, and none skips the field if one does. If it is rejected, then
for the first entry that offends, or, if none does, since a skipped field has a kind. So the order
of the entries decides which error is reported, but not whether there is one.

## Main definitions

* `FailsFirst`: the first item of a row that fails in view of those before it does so with an error
* `AttributeEntry.DeclaresKind`, `AttributeEntry.IsKnown`: what an entry may be
* `AttributeEntry.Offends`: what is wrong with an entry after others
* `FieldAttribute.IsAccepted`, `FieldAttribute.IsRejected`: the verdict on a row of entries

## Main results

* `FieldAttribute.addEntry_eq_error_iff`, `FieldAttribute.addEntries_eq_error_iff`: one entry fails
  as it offends, a row as the first of its entries that does
* `FieldAttribute.ofEntries_eq_error_iff`, `FieldAttribute.ofEntries_eq_ok_iff`: both verdicts are
  those of the reader
* `FieldAttribute.ofEntries_verdict`: which attributes are accepted, and as what
-/

namespace RecordFilter

/-! ### First failures -/

section FailsFirst

variable {α ε : Type} {Fails : List α → α → ε → Prop} {x : α} {row : List α} {e : ε}

/-- The first item of a row that fails does so with `e`. An item is judged in view of those
before it. -/
def FailsFirst (Fails : List α → α → ε → Prop) (row : List α) (e : ε) : Prop :=
  ∃ before x after, row = before ++ x :: after ∧ Fails before x e ∧
    ∀ earlier y later, before = earlier ++ y :: later → ∀ e', ¬ Fails earlier y e'

theorem not_failsFirst_nil : ¬ FailsFirst Fails [] e := by
  rintro ⟨before, x, after, whole, -⟩
  simp at whole

/-- The first item fails, or else the rest does in view of it. -/
theorem failsFirst_cons_iff : FailsFirst Fails (x :: row) e ↔
    Fails [] x e ∨
      (∀ e', ¬ Fails [] x e') ∧ FailsFirst (fun before => Fails (x :: before)) row e := by
  constructor
  · rintro ⟨before, y, after, whole, fails, noEarlier⟩
    cases before with
    | nil =>
      obtain ⟨rfl, -⟩ := List.cons.inj whole
      exact .inl fails
    | cons head before =>
      obtain ⟨rfl, rest⟩ := List.cons.inj whole
      refine .inr ⟨noEarlier [] x before rfl, before, y, after, rest, fails, ?_⟩
      rintro earlier z later rfl
      exact noEarlier (x :: earlier) z later rfl
  · rintro (fails | ⟨passes, before, y, after, rfl, fails, noEarlier⟩)
    · exact ⟨[], x, row, rfl, fails, by simp⟩
    · refine ⟨x :: before, y, after, rfl, fails, fun earlier z later split => ?_⟩
      cases earlier with
      | nil =>
        obtain ⟨rfl, -⟩ := List.cons.inj split
        exact passes
      | cons head earlier =>
        obtain ⟨rfl, rest⟩ := List.cons.inj split
        exact noEarlier earlier z later rest

/-- Where an item fails, there is a first one that does. -/
theorem exists_failsFirst_iff : (∃ e, FailsFirst Fails row e) ↔
    ∃ before x after, row = before ++ x :: after ∧ ∃ e, Fails before x e := by
  constructor
  · rintro ⟨e, before, x, after, whole, fails, -⟩
    exact ⟨before, x, after, whole, e, fails⟩
  · rintro ⟨before, x, after, rfl, e, fails⟩
    induction before generalizing Fails with
    | nil => exact ⟨e, failsFirst_cons_iff.mpr (.inl fails)⟩
    | cons y before ih =>
      by_cases first : ∃ e', Fails [] y e'
      · obtain ⟨e', first⟩ := first
        exact ⟨e', failsFirst_cons_iff.mpr (.inl first)⟩
      · obtain ⟨e', later⟩ :
            ∃ e', FailsFirst (fun seen => Fails (y :: seen)) (before ++ x :: after) e' := ih fails
        exact ⟨e', failsFirst_cons_iff.mpr (.inr ⟨not_exists.mp first, later⟩)⟩

/-- Where no item fails first, none fails in view of those before it. -/
theorem forall_not_failsFirst_iff : (∀ e, ¬ FailsFirst Fails row e) ↔
    ∀ before x after, row = before ++ x :: after → ∀ e, ¬ Fails before x e := by
  have first : (∃ e, FailsFirst Fails row e) ↔ _ := exists_failsFirst_iff
  simpa only [not_exists, not_and] using not_congr first

/-- A relation holds between all items of a row exactly if it holds between each one and those
before it. -/
theorem pairwise_iff_forall_before {R : α → α → Prop} : row.Pairwise R ↔
    ∀ before x after, row = before ++ x :: after → ∀ y ∈ before, R y x := by
  constructor
  · rintro pairwise before x after rfl y member
    exact (List.pairwise_append.mp pairwise).2.2 y member x List.mem_cons_self
  · intro related
    induction row with
    | nil => exact List.Pairwise.nil
    | cons head rest ih =>
      refine List.pairwise_cons.mpr ⟨fun x member => ?_, ih fun before x after whole y among => ?_⟩
      · obtain ⟨before, after, rfl⟩ := List.append_of_mem member
        exact related (head :: before) x after rfl head List.mem_cons_self
      · exact related (head :: before) x after (by rw [whole]; rfl) y (List.mem_cons_of_mem _ among)

end FailsFirst

/-! ### Entries -/

theorem Path.name?_eq_some_iff {p : Path} {name : String} :
    p.name? = some name ↔ p = ⟨false, [name]⟩ := by
  unfold Path.name?
  split
  · simp
  · next noName =>
    refine iff_of_false nofun ?_
    rintro rfl
    exact noName name rfl

namespace AttributeEntry

/-- The entry that skips the field. -/
def skip : AttributeEntry := .path ⟨false, ["skip"]⟩

/-- The entry that exposes the field under a name. -/
def rename (name : String) : AttributeEntry := .assignment ⟨false, ["rename"]⟩ (.text name)

/-- An entry declares a kind by one of its spellings, in any case: alone, or as a value. -/
inductive DeclaresKind (k : FieldKind) : AttributeEntry → Prop
  | path {name : String} (spelled : name.toLower ∈ k.toKind.spellings) :
      DeclaresKind k (.path ⟨false, [name]⟩)
  | value {name : String} (spelled : name.toLower ∈ k.toKind.spellings) :
      DeclaresKind k (.assignment ⟨false, ["kind"]⟩ (.text name))

/-- The entries that an attribute can have. -/
def IsKnown (entry : AttributeEntry) : Prop :=
  entry = skip ∨ (∃ k, entry.DeclaresKind k) ∨ ∃ name, entry = rename name

/-- What is wrong with an entry after those `before` it. The value of an entry is looked at before
its name, and a name of no kind is reported before a second kind is. -/
inductive Offends (before : List AttributeEntry) : AttributeEntry → DeriveError → Prop
  | noName {p : Path} (qualified : p.name? = none) : Offends before (.path p) .kindExpected
  | noKind {p : Path} {name : String} (named : p.name? = some name) (noSkip : name ≠ "skip")
      (unknown : ∀ k : FieldKind, name.toLower ∉ k.toKind.spellings) :
      Offends before (.path p) (.unknownKind name)
  | noText {p : Path} : Offends before (.assignment p .other) .textExpected
  | noKey {p : Path} {s : String} (noRename : p.name? ≠ some "rename")
      (noKind : p.name? ≠ some "kind") : Offends before (.assignment p (.text s)) .unknownKey
  | noKindValue {p : Path} {s : String} (named : p.name? = some "kind")
      (unknown : ∀ k : FieldKind, s.toLower ∉ k.toKind.spellings) :
      Offends before (.assignment p (.text s)) (.unknownKind s)
  | arguments {p : Path} {tokens : List AttributeToken} :
      Offends before (.call p tokens) .unknownEntry
  | again {entry other : AttributeEntry} {k l : FieldKind} (declares : entry.DeclaresKind k)
      (member : other ∈ before) (declared : other.DeclaresKind l) : Offends before entry .kindTwice

variable {entry : AttributeEntry} {before : List AttributeEntry} {k : FieldKind}

theorem skips_iff : entry.skips = true ↔ entry = skip := by
  cases entry <;> simp [skips, skip, Path.name?_eq_some_iff]

theorem newName?_eq_some_iff {name : String} :
    entry.newName? = some name ↔ entry = rename name := by
  rcases entry with p | ⟨p, _ | s⟩ | _ <;>
    simp [newName?, rename, Path.name?_eq_some_iff]

/-- The word that skips a field is no name of a kind. -/
theorem ne_skip_of_spelled {name : String} (spelled : name.toLower ∈ k.toKind.spellings) :
    name ≠ "skip" := by
  rintro rfl
  revert spelled
  cases k <;> decide +kernel

theorem kind?_eq_some_iff : entry.kind? = some k ↔ entry.DeclaresKind k := by
  constructor
  · intro given
    rcases entry with p | ⟨p, s | _⟩ | _
    · simp only [kind?] at given
      split at given
      · cases given
      · obtain ⟨name, named, known⟩ := Option.bind_eq_some_iff.mp given
        obtain rfl := Path.name?_eq_some_iff.mp named
        exact .path (FieldKind.ofName?_eq_some_iff.mp known)
    · simp only [kind?] at given
      split at given
      · next named =>
        obtain rfl := Path.name?_eq_some_iff.mp named
        exact .value (FieldKind.ofName?_eq_some_iff.mp given)
      · cases given
    · cases given
    · cases given
  · rintro (⟨spelled⟩ | ⟨spelled⟩)
    · simpa [kind?, Path.name?, ne_skip_of_spelled spelled] using
        FieldKind.ofName?_eq_some_iff.mpr spelled
    · simpa [kind?, Path.name?] using FieldKind.ofName?_eq_some_iff.mpr spelled

/-- A known entry offends by a second kind only. -/
theorem Offends.again_of_isKnown {e : DeriveError} (offends : entry.Offends before e)
    (known : entry.IsKnown) :
    ∃ other ∈ before, (∃ l, other.DeclaresKind l) ∧ ∃ k, entry.DeclaresKind k := by
  rcases known with rfl | ⟨k, declares⟩ | ⟨name, rfl⟩
  · cases offends with
    | noName qualified => cases qualified
    | noKind named noSkip _ => cases named; exact absurd rfl noSkip
    | again declares member declared => exact ⟨_, member, ⟨_, declared⟩, _, declares⟩
  · cases declares with
    | path spelled =>
      cases offends with
      | noName qualified => cases qualified
      | noKind named _ unknown => cases named; exact absurd spelled (unknown k)
      | again declares member declared => exact ⟨_, member, ⟨_, declared⟩, _, declares⟩
    | value spelled =>
      cases offends with
      | noKey _ noKind => exact absurd rfl noKind
      | noKindValue _ unknown => exact absurd spelled (unknown k)
      | again declares member declared => exact ⟨_, member, ⟨_, declared⟩, _, declares⟩
  · cases offends with
    | noKey noRename _ => exact absurd rfl noRename
    | noKindValue named _ => exact absurd named (by decide)
    | again declares member declared => exact ⟨_, member, ⟨_, declared⟩, _, declares⟩

/-- An entry that offends in no way is known, and is no second one with a kind. -/
theorem forall_not_offends_iff : (∀ e, ¬ entry.Offends before e) ↔
    entry.IsKnown ∧
      ∀ other ∈ before, ¬ ((∃ k, other.DeclaresKind k) ∧ ∃ k, entry.DeclaresKind k) := by
  constructor
  · intro passes
    refine ⟨?_, fun other member ⟨⟨l, declared⟩, k, declares⟩ =>
      passes _ (.again declares member declared)⟩
    rcases entry with p | ⟨p, s | _⟩ | _
    · cases named : p.name? with
      | none => exact absurd (.noName named) (passes _)
      | some name =>
        by_cases isSkip : name = "skip"
        · exact .inl (by rw [skip, Path.name?_eq_some_iff.mp named, isSkip])
        · by_contra unknown
          refine passes _ (.noKind named isSkip fun k spelled => unknown ?_)
          exact .inr (.inl ⟨k, Path.name?_eq_some_iff.mp named ▸ .path spelled⟩)
    · by_cases renames : p.name? = some "rename"
      · exact .inr (.inr ⟨s, by rw [rename, Path.name?_eq_some_iff.mp renames]⟩)
      · by_cases named : p.name? = some "kind"
        · by_contra unknown
          refine passes _ (.noKindValue named fun k spelled => unknown ?_)
          exact .inr (.inl ⟨k, Path.name?_eq_some_iff.mp named ▸ .value spelled⟩)
        · exact absurd (.noKey renames named) (passes _)
    · exact absurd .noText (passes _)
    · exact absurd .arguments (passes _)
  · rintro ⟨known, once⟩ e offends
    obtain ⟨other, member, both⟩ := offends.again_of_isKnown known
    exact once other member both

end AttributeEntry

namespace FieldAttribute

variable {a : FieldAttribute} {entries seen : List AttributeEntry} {entry : AttributeEntry}
  {e : DeriveError}

/-- What can go wrong with a kind. -/
theorem declareKind_eq_error_iff {name : String} : a.declareKind name = .error e ↔
    (∀ k : FieldKind, name.toLower ∉ k.toKind.spellings) ∧ e = .unknownKind name ∨
      (∃ k : FieldKind, name.toLower ∈ k.toKind.spellings) ∧ a.kind.isSome = true ∧
        e = .kindTwice := by
  simp only [← FieldKind.ofName?_eq_some_iff, declareKind]
  cases FieldKind.ofName? name with
  | none => simpa using eq_comm
  | some k =>
    cases a.kind with
    | none => simp
    | some _ => simpa using eq_comm

/-- An attribute that holds the kinds of the entries seen has one exactly if one of them declares
one. -/
theorem isSome_kind_iff (kinds : a.kind.toList = seen.filterMap AttributeEntry.kind?) :
    a.kind.isSome = true ↔ ∃ other ∈ seen, ∃ k, other.DeclaresKind k := by
  have holds (k : FieldKind) : a.kind = some k ↔ ∃ other ∈ seen, other.DeclaresKind k := by
    rw [← Option.mem_toList, kinds]
    simp [AttributeEntry.kind?_eq_some_iff]
  simp only [Option.isSome_iff_exists, holds]
  exact ⟨fun ⟨k, other, member, declared⟩ => ⟨other, member, k, declared⟩,
    fun ⟨other, member, k, declared⟩ => ⟨k, other, member, declared⟩⟩

/-- A kind offends if it is unknown or if there is one already. -/
theorem offends_of_declareKind {name : String} (entry : AttributeEntry)
    (kinds : a.kind.toList = seen.filterMap AttributeEntry.kind?)
    (unknown : (∀ k : FieldKind, name.toLower ∉ k.toKind.spellings) →
      entry.Offends seen (.unknownKind name))
    (known : ∀ k : FieldKind, name.toLower ∈ k.toKind.spellings → entry.DeclaresKind k)
    (failed : a.declareKind name = .error e) : entry.Offends seen e := by
  rcases declareKind_eq_error_iff.mp failed with ⟨none, rfl⟩ | ⟨⟨k, spelled⟩, taken, rfl⟩
  · exact unknown none
  · obtain ⟨other, member, l, declared⟩ := (isSome_kind_iff kinds).mp taken
    exact .again (known k spelled) member declared

/-- An entry that is added to those seen fails exactly if it offends, in view of them. -/
theorem addEntry_eq_error_iff (kinds : a.kind.toList = seen.filterMap AttributeEntry.kind?) :
    a.addEntry entry = .error e ↔ entry.Offends seen e := by
  constructor
  · intro failed
    unfold addEntry at failed
    split at failed
    · next p =>
      split at failed
      · next qualified =>
        cases failed
        exact .noName qualified
      · next name named =>
        split at failed
        · cases failed
        · next noSkip =>
          refine offends_of_declareKind _ kinds (.noKind named noSkip) (fun _ spelled => ?_) failed
          exact Path.name?_eq_some_iff.mp named ▸ .path spelled
    · cases failed
      exact .noText
    · next p s =>
      split at failed
      · cases failed
      · next noRename =>
        split at failed
        · next named =>
          refine offends_of_declareKind _ kinds (.noKindValue named) (fun _ spelled => ?_) failed
          exact Path.name?_eq_some_iff.mp named ▸ .value spelled
        · next noKind =>
          cases failed
          exact .noKey noRename noKind
    · cases failed
      exact .arguments
  · rintro (⟨qualified⟩ | ⟨named, noSkip, unknown⟩ | _ | ⟨noRename, noKind⟩ | ⟨named, unknown⟩ |
      _ | ⟨declares, member, declared⟩)
    · simp [addEntry, qualified]
    · simp [addEntry, named, noSkip, declareKind_eq_error_iff, unknown]
    · rfl
    · simp [addEntry, noRename, noKind]
    · simp [addEntry, named, declareKind_eq_error_iff, unknown]
    · rfl
    · have taken := (isSome_kind_iff kinds).mpr ⟨_, member, _, declared⟩
      cases declares with
      | path spelled =>
        have twice := declareKind_eq_error_iff.mpr (.inr ⟨⟨_, spelled⟩, taken, rfl⟩)
        simpa [addEntry, Path.name?, AttributeEntry.ne_skip_of_spelled spelled] using twice
      | value spelled =>
        have twice := declareKind_eq_error_iff.mpr (.inr ⟨⟨_, spelled⟩, taken, rfl⟩)
        simpa [addEntry, Path.name?] using twice

/-- A row of entries that is added to those seen fails as the first of them that offends. -/
theorem addEntries_eq_error_iff (kinds : a.kind.toList = seen.filterMap AttributeEntry.kind?) :
    a.addEntries entries = .error e ↔
      FailsFirst (fun before entry => entry.Offends (seen ++ before)) entries e := by
  induction entries generalizing a seen with
  | nil => exact iff_of_false nofun not_failsFirst_nil
  | cons entry rest ih =>
    have step {e : DeriveError} : a.addEntry entry = .error e ↔ entry.Offends seen e :=
      addEntry_eq_error_iff kinds
    rw [addEntries, failsFirst_cons_iff, List.append_nil]
    cases added : a.addEntry entry with
    | error first =>
      simp only [← step, added]
      simp
    | ok b =>
      have later : b.kind.toList = (seen ++ [entry]).filterMap AttributeEntry.kind? := by
        rw [(addEntry_eq_ok added).2.2, kinds, List.filterMap_append]
        cases found : entry.kind? <;> simp [found]
      simp only [← step, added, ih later, List.append_assoc, List.singleton_append]
      simp

/-- Attributes can have these entries: each is known, no two declare kinds, and none declares one
where another skips the field. -/
structure IsAccepted (entries : List AttributeEntry) : Prop where
  known : ∀ entry ∈ entries, entry.IsKnown
  once : entries.Pairwise fun x y => ¬ ((∃ k, x.DeclaresKind k) ∧ ∃ k, y.DeclaresKind k)
  apart : AttributeEntry.skip ∈ entries → ∀ entry ∈ entries, ∀ k, ¬ entry.DeclaresKind k

/-- Entries are rejected with the error of the first one that offends. Only where none does, it is
reported that a skipped field has a kind. -/
def IsRejected (entries : List AttributeEntry) (e : DeriveError) : Prop :=
  FailsFirst (fun before entry => entry.Offends before) entries e ∨
    (∀ e', ¬ FailsFirst (fun before entry => entry.Offends before) entries e') ∧
      AttributeEntry.skip ∈ entries ∧ (∃ entry ∈ entries, ∃ k, entry.DeclaresKind k) ∧
      e = .skippedKind

/-- No entry offends exactly if all are known and no two declare kinds. -/
theorem forall_not_failsFirst_offends_iff :
    (∀ e, ¬ FailsFirst (fun before entry => entry.Offends before) entries e) ↔
      (∀ entry ∈ entries, entry.IsKnown) ∧
        entries.Pairwise fun x y => ¬ ((∃ k, x.DeclaresKind k) ∧ ∃ k, y.DeclaresKind k) := by
  rw [forall_not_failsFirst_iff, pairwise_iff_forall_before]
  simp only [AttributeEntry.forall_not_offends_iff]
  constructor
  · intro passes
    refine ⟨fun entry member => ?_, fun before x after whole => (passes before x after whole).2⟩
    obtain ⟨before, after, whole⟩ := List.append_of_mem member
    exact (passes before entry after whole).1
  · rintro ⟨known, once⟩ before x after whole
    exact ⟨known x (by rw [whole]; simp), once before x after whole⟩

theorem addEntries_empty_eq_error_iff : empty.addEntries entries = .error e ↔
    FailsFirst (fun before entry => entry.Offends before) entries e := by
  have noKind : empty.kind.toList = ([] : List AttributeEntry).filterMap AttributeEntry.kind? := rfl
  exact addEntries_eq_error_iff noKind

theorem skip_iff_of_addEntries (added : empty.addEntries entries = .ok a) :
    a.skip = true ↔ AttributeEntry.skip ∈ entries := by
  rw [(addEntries_eq_ok added).1]
  simp [empty, AttributeEntry.skips_iff]

theorem kind_iff_of_addEntries (added : empty.addEntries entries = .ok a) (k : FieldKind) :
    a.kind = some k ↔ ∃ entry ∈ entries, entry.DeclaresKind k := by
  rw [← Option.mem_toList, (addEntries_eq_ok added).2.2]
  simp [empty, AttributeEntry.kind?_eq_some_iff]

theorem rename_iff_of_addEntries (added : empty.addEntries entries = .ok a) (name : String) :
    a.rename = some name ↔ ∃ before after, entries = before ++ .rename name :: after ∧
      ∀ other, AttributeEntry.rename other ∉ after := by
  rw [(addEntries_eq_ok added).2.1, empty, Option.or_none, List.getLast?_filterMap,
    List.findSome?_eq_some_iff]
  constructor
  · rintro ⟨after, entry, before, whole, named, later⟩
    obtain rfl := AttributeEntry.newName?_eq_some_iff.mp named
    refine ⟨before.reverse, after.reverse, ?_, fun other member => ?_⟩
    · simpa using congrArg List.reverse whole
    · have noName := later _ (List.mem_reverse.mp member)
      rw [AttributeEntry.newName?_eq_some_iff.mpr rfl] at noName
      cases noName
  · rintro ⟨before, after, rfl, noOther⟩
    refine ⟨after.reverse, .rename name, before.reverse, by simp,
      AttributeEntry.newName?_eq_some_iff.mpr rfl, fun entry member => ?_⟩
    refine Option.eq_none_iff_forall_ne_some.mpr fun other named => noOther other ?_
    rw [← AttributeEntry.newName?_eq_some_iff.mp named]
    exact List.mem_reverse.mp member

/-- Without an entry that offends, only a kind of a skipped field is left to be reported. -/
theorem ofEntries_of_addEntries (added : empty.addEntries entries = .ok a) :
    ofEntries entries = if a.skip && a.kind.isSome then .error .skippedKind else .ok a := by
  rw [ofEntries, added]

theorem addEntries_of_ofEntries (read : ofEntries entries = .ok a) :
    empty.addEntries entries = .ok a := by
  cases added : empty.addEntries entries with
  | error first =>
    rw [ofEntries, added] at read
    cases read
  | ok b =>
    rw [ofEntries_of_addEntries added] at read
    split at read <;> cases read
    rfl

/-- Entries fail with what they are rejected with. -/
theorem ofEntries_eq_error_iff : ofEntries entries = .error e ↔ IsRejected entries e := by
  unfold IsRejected
  cases added : empty.addEntries entries with
  | error first =>
    have offends := addEntries_empty_eq_error_iff.mp added
    have same : ofEntries entries = empty.addEntries entries := by rw [ofEntries, added]
    rw [same, addEntries_empty_eq_error_iff]
    exact (or_iff_left fun ⟨passes, _⟩ => passes first offends).symm
  | ok a =>
    have passes (e' : DeriveError) :
        ¬ FailsFirst (fun before entry => entry.Offends before) entries e' := by
      rw [← addEntries_empty_eq_error_iff, added]
      nofun
    have hasKind : a.kind.isSome = true ↔ ∃ entry ∈ entries, ∃ k, entry.DeclaresKind k :=
      isSome_kind_iff (by simpa [empty] using (addEntries_eq_ok added).2.2)
    rw [ofEntries_of_addEntries added, ← skip_iff_of_addEntries added, ← hasKind]
    cases a.skip <;> cases a.kind <;> simp [passes, eq_comm]

/-- What is not accepted is rejected, and nothing is both. -/
theorem isAccepted_iff : IsAccepted entries ↔ ∀ e, ¬ IsRejected entries e := by
  constructor
  · rintro accepted e (offends | ⟨-, skips, ⟨entry, member, k, declares⟩, -⟩)
    · exact forall_not_failsFirst_offends_iff.mpr ⟨accepted.known, accepted.once⟩ e offends
    · exact accepted.apart skips entry member k declares
  · intro passes
    have none : ∀ e, ¬ FailsFirst (fun before entry => entry.Offends before) entries e :=
      fun e offends => passes e (.inl offends)
    obtain ⟨known, once⟩ := forall_not_failsFirst_offends_iff.mp none
    exact ⟨known, once, fun skips entry member k declares =>
      passes .skippedKind (.inr ⟨none, skips, ⟨entry, member, k, declares⟩, rfl⟩)⟩

theorem exists_ofEntries_eq_ok_iff : (∃ a, ofEntries entries = .ok a) ↔ IsAccepted entries := by
  rw [isAccepted_iff]
  simp only [← ofEntries_eq_error_iff]
  cases ofEntries entries <;> simp

/-- Accepted entries are read as what they declare. -/
theorem ofEntries_eq_ok_iff :
    ofEntries entries = .ok a ↔ IsAccepted entries ∧ a = declared entries := by
  constructor
  · intro read
    exact ⟨exists_ofEntries_eq_ok_iff.mp ⟨a, read⟩, ofEntries_eq_ok read⟩
  · rintro ⟨accepted, rfl⟩
    obtain ⟨b, read⟩ := exists_ofEntries_eq_ok_iff.mpr accepted
    rw [← ofEntries_eq_ok read, read]

theorem skip_declared_iff : (declared entries).skip = true ↔ AttributeEntry.skip ∈ entries := by
  simp [declared, AttributeEntry.skips_iff]

theorem IsAccepted.kind_declared_iff (accepted : IsAccepted entries) (k : FieldKind) :
    (declared entries).kind = some k ↔ ∃ entry ∈ entries, entry.DeclaresKind k :=
  kind_iff_of_addEntries (addEntries_of_ofEntries (ofEntries_eq_ok_iff.mpr ⟨accepted, rfl⟩)) k

/-- The order of entries does not decide whether they are accepted. -/
theorem IsAccepted.perm {others : List AttributeEntry} (perm : others.Perm entries)
    (accepted : IsAccepted entries) : IsAccepted others where
  known entry member := accepted.known entry (perm.mem_iff.mp member)
  once := (perm.pairwise_iff fun apart ⟨x, y⟩ => apart ⟨y, x⟩).mpr accepted.once
  apart skips entry member := accepted.apart (perm.mem_iff.mp skips) entry (perm.mem_iff.mp member)

/-- Entries are read as an attribute exactly if each of them is known, no two declare kinds, and
none declares one where another skips the field. The attribute has the kind that an entry declares,
skips the field if an entry does, and has the last of the new names. Otherwise the error is that of
the first entry that offends in view of those before it, and only where none does, that a skipped
field has a kind. The order of the entries does not decide whether they are read. -/
theorem ofEntries_verdict (entries : List AttributeEntry) :
    ((∃ a, ofEntries entries = .ok a) ↔ IsAccepted entries) ∧
    (∀ a, ofEntries entries = .ok a →
      (∀ k, a.kind = some k ↔ ∃ entry ∈ entries, entry.DeclaresKind k) ∧
      (a.skip = true ↔ AttributeEntry.skip ∈ entries) ∧
      ∀ name, a.rename = some name ↔ ∃ before after, entries = before ++ .rename name :: after ∧
        ∀ other, AttributeEntry.rename other ∉ after) ∧
    (∀ e, ofEntries entries = .error e ↔ IsRejected entries e) ∧
    ∀ others, others.Perm entries →
      ((∃ a, ofEntries others = .ok a) ↔ ∃ a, ofEntries entries = .ok a) := by
  refine ⟨exists_ofEntries_eq_ok_iff, fun a read => ?_, fun e => ofEntries_eq_error_iff,
    fun others perm => ?_⟩
  · have added := addEntries_of_ofEntries read
    exact ⟨kind_iff_of_addEntries added, skip_iff_of_addEntries added,
      rename_iff_of_addEntries added⟩
  · rw [exists_ofEntries_eq_ok_iff, exists_ofEntries_eq_ok_iff]
    exact ⟨.perm perm.symm, .perm perm⟩

/-- The last of two names counts. A second kind is reported although a field with a kind is
skipped, and although an entry after it has a value that is no text. -/
theorem ofEntries_verdict_of_second_kind :
    let kind (name : String) : AttributeEntry := .assignment ⟨false, ["kind"]⟩ (.text name)
    let fine := [.rename "a", kind "Float", .rename "b"]
    let twice := [.path ⟨false, ["I64"]⟩, .skip, kind "INT", .assignment ⟨false, ["rename"]⟩ .other]
    ofEntries fine = .ok ⟨some .f64, false, some "b"⟩ ∧ IsAccepted fine ∧
      (∃ entry ∈ fine, entry.DeclaresKind .f64) ∧ AttributeEntry.skip ∉ fine ∧
      IsRejected twice .kindTwice ∧ ¬ ∃ a, ofEntries twice.reverse = .ok a := by
  intro kind fine twice
  have read : ofEntries fine = .ok ⟨some .f64, false, some "b"⟩ := by decide +kernel
  have failed : ofEntries twice = .error .kindTwice := by decide +kernel
  obtain ⟨accepted, declares, -, -⟩ := ofEntries_verdict fine
  obtain ⟨-, -, rejected, order⟩ := ofEntries_verdict twice
  obtain ⟨kinds, skips, -⟩ := declares _ read
  refine ⟨read, accepted.mp ⟨_, read⟩, (kinds .f64).mp rfl, mt skips.mpr nofun,
    (rejected _).mp failed, fun again => ?_⟩
  obtain ⟨a, ok⟩ := (order _ (List.reverse_perm twice)).mp again
  rw [failed] at ok
  cases ok

end FieldAttribute

end RecordFilter
