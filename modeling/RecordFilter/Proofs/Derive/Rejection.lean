import RecordFilter.Proofs.Derive.Acceptance
import RecordFilter.Proofs.Outcome

/-!
# Rejected definitions

The fields of a definition are expanded in their order, and each can fail by its own attribute, by
the lack of a kind, or by a name that a field before it took. Only exposed fields take names, so a
hidden field fails by a bad attribute or not at all, and no other field fails for it.

## Main definitions

* `FieldDefinition.HasBadAttribute`, `FieldDefinition.LacksKind`: what is wrong with a field alone
* `FieldDefinition.IsExposedAs`: the field takes a name
* `FieldDefinition.FailsAfter`: what is wrong with a field after others

## Main results

* `FieldDefinition.recordAttribute_eq_error_iff`: a field is not read exactly if its attribute is bad
* `expandFields_eq_error_iff`: fields fail as the first of them that does
* `expandFields_append_cons`: hidden fields may be left out
* `expand_rejections`: which definitions are rejected
-/

namespace RecordFilter

/-! ### Fields -/

namespace FieldDefinition

/-- The first attribute for records of the field is read as these entries. -/
def Lists (f : FieldDefinition) (entries : List AttributeEntry) : Prop :=
  ∃ p tokens, f.firstAttribute? = some (.call p tokens) ∧
    AttributeEntry.ofTokens tokens = .ok entries

/-- What is wrong with the first attribute for records: it is no list, or none of entries, or one
of entries that are rejected. -/
inductive HasBadAttribute (f : FieldDefinition) : DeriveError → Prop
  | noArguments {p : Path} (first : f.firstAttribute? = some (.path p)) :
      HasBadAttribute f .argumentsExpected
  | noBrackets {p : Path} {value : EntryValue}
      (first : f.firstAttribute? = some (.assignment p value)) :
      HasBadAttribute f .bracketsExpected
  | noEntries {p : Path} {tokens : List AttributeToken} {e : EntryError}
      (first : f.firstAttribute? = some (.call p tokens))
      (unread : AttributeEntry.ofTokens tokens = .error e) : HasBadAttribute f (.malformed e)
  | rejected {entries : List AttributeEntry} {e : DeriveError} (lists : f.Lists entries)
      (rejected : FieldAttribute.IsRejected entries e) : HasBadAttribute f e

/-- The field is exposed under a name: its attribute is accepted and declares a kind. -/
def IsExposedAs (f : FieldDefinition) (name : String) : Prop :=
  ∃ entries, f.Lists entries ∧ FieldAttribute.IsAccepted entries ∧
    (∃ entry ∈ entries, ∃ k, entry.DeclaresKind k) ∧
    name = (FieldAttribute.declared entries).rename.getD f.name

/-- The attribute of the field is accepted, but neither skips the field nor declares a kind. -/
def LacksKind (f : FieldDefinition) : Prop :=
  ∃ entries, f.Lists entries ∧ FieldAttribute.IsAccepted entries ∧
    AttributeEntry.skip ∉ entries ∧ ∀ entry ∈ entries, ∀ k, ¬ entry.DeclaresKind k

/-- What is wrong with a field after those `before` it. -/
inductive FailsAfter (before : List FieldDefinition) (f : FieldDefinition) : DeriveError → Prop
  | attribute {e : DeriveError} (bad : f.HasBadAttribute e) : FailsAfter before f e
  | noKind (lacks : f.LacksKind) : FailsAfter before f .missingKind
  | duplicate {g : FieldDefinition} {name : String} (exposed : f.IsExposedAs name)
      (member : g ∈ before) (taken : g.IsExposedAs name) :
      FailsAfter before f (.duplicateName name)

variable {f : FieldDefinition} {before : List FieldDefinition} {e : DeriveError}
  {a : FieldAttribute} {name : String}

theorem recordAttribute_of_lists {entries : List AttributeEntry} (lists : f.Lists entries) :
    f.recordAttribute = (FieldAttribute.ofEntries entries).map some := by
  obtain ⟨p, tokens, first, read⟩ := lists
  simp only [recordAttribute_eq, first, read]

/-- A field fails to be read exactly by its first attribute for records. -/
theorem recordAttribute_eq_error_iff : f.recordAttribute = .error e ↔ f.HasBadAttribute e := by
  constructor
  · intro failed
    rw [recordAttribute_eq] at failed
    split at failed
    · cases failed
    · next first =>
      split at failed
      · next unread =>
        cases failed
        exact .noEntries first unread
      · next entries read =>
        have same := map_eq_error_iff.mp failed
        exact .rejected ⟨_, _, first, read⟩ (FieldAttribute.ofEntries_eq_error_iff.mp same)
    · next first =>
      cases failed
      exact .noArguments first
    · next first =>
      cases failed
      exact .noBrackets first
  · rintro (⟨first⟩ | ⟨first⟩ | ⟨first, unread⟩ | ⟨lists, rejected⟩)
    · simp only [recordAttribute_eq, first]
    · simp only [recordAttribute_eq, first]
    · simp only [recordAttribute_eq, first, unread]
    · rw [recordAttribute_of_lists lists, FieldAttribute.ofEntries_eq_error_iff.mpr rejected]
      rfl

/-- A field is read as the entries of its first attribute for records declare. -/
theorem recordAttribute_eq_some_iff : f.recordAttribute = .ok (some a) ↔
    ∃ entries, f.Lists entries ∧ FieldAttribute.IsAccepted entries ∧
      a = FieldAttribute.declared entries := by
  simp only [← FieldAttribute.ofEntries_eq_ok_iff]
  constructor
  · intro read
    rw [recordAttribute_eq] at read
    split at read
    · cases read
    · next first =>
      split at read
      · cases read
      · next entries listed =>
        obtain ⟨b, accepted, same⟩ := map_eq_ok_iff.mp read
        cases same
        exact ⟨entries, ⟨_, _, first, listed⟩, accepted⟩
    · cases read
    · cases read
  · rintro ⟨entries, lists, read⟩
    rw [recordAttribute_of_lists lists, read]
    rfl

/-- An accepted attribute with a kind does not skip the field. -/
theorem isExposedAs_iff : f.IsExposedAs name ↔
    ∃ a, f.recordAttribute = .ok (some a) ∧ a.skip = false ∧ a.kind.isSome = true ∧
      name = a.rename.getD f.name := by
  constructor
  · rintro ⟨entries, lists, accepted, ⟨entry, member, k, declares⟩, rfl⟩
    refine ⟨_, recordAttribute_eq_some_iff.mpr ⟨entries, lists, accepted, rfl⟩, ?_, ?_, rfl⟩
    · rw [Bool.eq_false_iff, ne_eq, FieldAttribute.skip_declared_iff]
      exact fun skips => accepted.apart skips entry member k declares
    · rw [(accepted.kind_declared_iff k).mpr ⟨entry, member, declares⟩]
      rfl
  · rintro ⟨a, read, -, hasKind, rfl⟩
    obtain ⟨entries, lists, accepted, rfl⟩ := recordAttribute_eq_some_iff.mp read
    obtain ⟨k, declared⟩ := Option.isSome_iff_exists.mp hasKind
    obtain ⟨entry, member, declares⟩ := (accepted.kind_declared_iff k).mp declared
    exact ⟨entries, lists, accepted, ⟨entry, member, k, declares⟩, rfl⟩

theorem lacksKind_iff : f.LacksKind ↔
    ∃ a, f.recordAttribute = .ok (some a) ∧ a.skip = false ∧ a.kind = none := by
  constructor
  · rintro ⟨entries, lists, accepted, noSkip, noKind⟩
    refine ⟨_, recordAttribute_eq_some_iff.mpr ⟨entries, lists, accepted, rfl⟩, ?_, ?_⟩
    · rwa [Bool.eq_false_iff, ne_eq, FieldAttribute.skip_declared_iff]
    · refine Option.eq_none_iff_forall_ne_some.mpr fun k declared => ?_
      obtain ⟨entry, member, declares⟩ := (accepted.kind_declared_iff k).mp declared
      exact noKind entry member k declares
  · rintro ⟨a, read, noSkip, noKind⟩
    obtain ⟨entries, lists, accepted, rfl⟩ := recordAttribute_eq_some_iff.mp read
    rw [Bool.eq_false_iff, ne_eq, FieldAttribute.skip_declared_iff] at noSkip
    refine ⟨entries, lists, accepted, noSkip, fun entry member k declares => ?_⟩
    rw [(accepted.kind_declared_iff k).mpr ⟨entry, member, declares⟩] at noKind
    cases noKind

/-- A field fails to be read, or is read but has no kind, or a name that is taken. -/
theorem failsAfter_iff : f.FailsAfter before e ↔ f.recordAttribute = .error e ∨
    ∃ a, f.recordAttribute = .ok (some a) ∧ a.skip = false ∧
      (a.kind = none ∧ e = .missingKind ∨
        a.kind.isSome = true ∧ (∃ g ∈ before, g.IsExposedAs (a.rename.getD f.name)) ∧
          e = .duplicateName (a.rename.getD f.name)) := by
  constructor
  · rintro (⟨bad⟩ | ⟨lacks⟩ | ⟨exposed, member, taken⟩)
    · exact .inl (recordAttribute_eq_error_iff.mpr bad)
    · obtain ⟨a, read, noSkip, noKind⟩ := lacksKind_iff.mp lacks
      exact .inr ⟨a, read, noSkip, .inl ⟨noKind, rfl⟩⟩
    · obtain ⟨a, read, noSkip, hasKind, rfl⟩ := isExposedAs_iff.mp exposed
      exact .inr ⟨a, read, noSkip, .inr ⟨hasKind, ⟨_, member, taken⟩, rfl⟩⟩
  · rintro (failed | ⟨a, read, noSkip, ⟨noKind, rfl⟩ | ⟨hasKind, ⟨g, member, taken⟩, rfl⟩⟩)
    · exact .attribute (recordAttribute_eq_error_iff.mp failed)
    · exact .noKind (lacksKind_iff.mpr ⟨a, read, noSkip, noKind⟩)
    · exact .duplicate (isExposedAs_iff.mpr ⟨a, read, noSkip, hasKind, rfl⟩) member taken

end FieldDefinition

/-! ### Rows of fields -/

/-- Fields fail as the first of them that does, if names of constants do not make them panic. The
names that are `taken` are those of the fields seen. -/
theorem expandFields_eq_error_iff {taken : List String} {seen fields : List FieldDefinition}
    {e : DeriveError} (names : ∀ name, name ∈ taken ↔ ∃ g ∈ seen, g.IsExposedAs name)
    (identifiers : ∀ f ∈ fields, ∀ name, f.IsExposedAs name →
      Text.isIdentifier (constantName name).toList = true) :
    expandFields taken fields = .error e ↔
      FailsFirst (fun before f => f.FailsAfter (seen ++ before)) fields e := by
  induction fields generalizing taken seen with
  | nil => exact iff_of_false nofun not_failsFirst_nil
  | cons f rest ih =>
    obtain ⟨identifier, later⟩ := List.forall_mem_cons.mp identifiers
    -- the rest is judged in view of this field too, which may take a name
    have past (next : List String)
        (names : ∀ name, name ∈ next ↔ (∃ g ∈ seen, g.IsExposedAs name) ∨ f.IsExposedAs name) :
        expandFields next rest = .error e ↔
          FailsFirst (fun before g => g.FailsAfter (seen ++ f :: before)) rest e := by
      have seenToo : ∀ name, name ∈ next ↔ ∃ g ∈ seen ++ [f], g.IsExposedAs name := by
        simpa [or_and_right, exists_or] using names
      simpa using ih seenToo later
    rw [expandFields, failsFirst_cons_iff, List.append_nil]
    simp only [FieldDefinition.failsAfter_iff, ← names]
    cases read : f.recordAttribute with
    | error e' => simp
    | ok declared =>
      cases declared with
      | none =>
        rw [← past taken (by simp [names, FieldDefinition.isExposedAs_iff, read])]
        simp
      | some a =>
        cases skips : a.skip with
        | true =>
          rw [← past taken (by simp [names, FieldDefinition.isExposedAs_iff, read, skips])]
          simp [skips]
        | false =>
          cases hasKind : a.kind with
          | none => simpa [skips, hasKind] using eq_comm
          | some k =>
            have exposed (name : String) : f.IsExposedAs name ↔ name = a.rename.getD f.name := by
              simp [FieldDefinition.isExposedAs_iff, read, skips, hasKind]
            by_cases old : a.rename.getD f.name ∈ taken
            · simpa [skips, hasKind, old] using eq_comm
            · rw [← past (a.rename.getD f.name :: taken) (by simp [names, exposed, or_comm])]
              simp [skips, hasKind, old, identifier _ ((exposed _).mpr rfl), map_eq_error_iff]

/-- A hidden field without a bad attribute is passed over, wherever it stands. -/
theorem expandFields_append_cons {f : FieldDefinition} (hidden : f.IsHidden)
    (fine : ∀ e, ¬ f.HasBadAttribute e) (taken : List String)
    (before after : List FieldDefinition) :
    expandFields taken (before ++ f :: after) = expandFields taken (before ++ after) := by
  induction before generalizing taken with
  | nil =>
    rw [List.nil_append, List.nil_append, expandFields]
    rcases f.recordAttribute_cases with ⟨e, -, failed⟩ | ⟨-, absent⟩ | ⟨a, declared, read⟩
    · exact absurd (FieldDefinition.recordAttribute_eq_error_iff.mp failed) (fine e)
    · rw [absent]
    · rcases hidden with absent | ⟨b, again, skips⟩
      · rw [FieldDefinition.declared?, absent] at declared
        cases declared
      · cases again.symm.trans declared
        simp [read, skips]
  | cons g before ih => simp only [List.cons_append, expandFields, ih]

/-- A definition that is no structure with named fields is rejected as such. Otherwise, as long as
the names of exposed fields give identifiers, it is rejected exactly if a field fails, with the
error of the first field that does: by a bad attribute, by an attribute that neither skips the field
nor declares a kind, or by a name under which a field before it is exposed. A hidden field whose
attribute is not bad could as well be left out, whatever its name is. -/
theorem expand_rejections (d : Definition) :
    (d.shape = .tuple ∨ d.shape = .unit → expand d = .error .fieldsNotNamed) ∧
    (d.shape = .sum ∨ d.shape = .union → expand d = .error .notStruct) ∧
    ∀ fields, d.shape = .named fields →
      ((∀ f ∈ fields, ∀ name, f.IsExposedAs name →
          Text.isIdentifier (constantName name).toList = true) →
        (∀ e, expand d = .error e ↔
          FailsFirst (fun before f => f.FailsAfter before) fields e) ∧
        ((∃ e, expand d = .error e) ↔
          ∃ before f after, fields = before ++ f :: after ∧ ∃ e, f.FailsAfter before e)) ∧
      ∀ before f after, fields = before ++ f :: after → f.IsHidden →
        (∀ e, ¬ f.HasBadAttribute e) →
          expand { d with shape := .named (before ++ after) } = expand d := by
  obtain ⟨name, parameters, shape⟩ := d
  refine ⟨?_, ?_, ?_⟩
  · rintro (rfl | rfl) <;> rfl
  · rintro (rfl | rfl) <;> rfl
  · rintro fields rfl
    refine ⟨fun identifiers => ?_, fun before f after whole hidden fine => ?_⟩
    · have none (name : String) :
          name ∈ ([] : List String) ↔ ∃ g ∈ ([] : List FieldDefinition), g.IsExposedAs name := by
        simp
      have fails (e : DeriveError) : expand ⟨name, parameters, .named fields⟩ = .error e ↔
          FailsFirst (fun before f => f.FailsAfter before) fields e :=
        expandFields_eq_error_iff none identifiers
      simp only [fails, exists_failsFirst_iff, implies_true, true_and]
    · rw [whole]
      exact (expandFields_append_cons hidden fine [] before after).symm

/-- A name is taken by a field that is renamed to it, not by the fields without an attribute or
skipped that have it as their own. It is reported before a field that lacks a kind. -/
theorem expand_rejections_of_taken_name :
    let record : List AttributeToken → AttributeEntry := .call ⟨false, ["record"]⟩
    let rename (name : String) : List AttributeToken := [.word "rename", .mark '=', .text name]
    let before : List FieldDefinition :=
      [⟨"a", []⟩, ⟨"b", [record (.word "u8" :: .mark ',' :: rename "a")]⟩]
    let skipped : FieldDefinition := ⟨"a", [record [.word "skip"], record [.word "Bool"]]⟩
    let after : List FieldDefinition :=
      [⟨"c", [record (rename "a" ++ [.mark ',', .word "String"])]⟩, ⟨"d", [record (rename "x")]⟩]
    let definition (fields : List FieldDefinition) : Definition := ⟨"Task", [], .named fields⟩
    (∀ f ∈ before ++ skipped :: after, ∀ name, f.IsExposedAs name →
      Text.isIdentifier (constantName name).toList = true) ∧
    expand (definition (before ++ skipped :: after)) = .error (.duplicateName "a") ∧
    FailsFirst (fun before f => f.FailsAfter before) (before ++ skipped :: after)
      (.duplicateName "a") ∧
    skipped.IsHidden ∧ (∀ e, ¬ skipped.HasBadAttribute e) ∧
    expand (definition (before ++ after)) = .error (.duplicateName "a") ∧
    expand ⟨"Pair", [], .tuple⟩ = .error .fieldsNotNamed := by
  intro record rename before skipped after definition
  have check : ∀ f ∈ before ++ skipped :: after, ∀ a, f.recordAttribute = .ok (some a) →
      Text.isIdentifier (constantName (a.rename.getD f.name)).toList = true := by
    have all : ∀ f ∈ before ++ skipped :: after, (f.recordAttribute.toOption.join.all fun a =>
        Text.isIdentifier (constantName (a.rename.getD f.name)).toList) = true := by
      decide +kernel
    intro f member a read
    simpa [read, Except.toOption] using all f member
  have identifiers : ∀ f ∈ before ++ skipped :: after, ∀ name, f.IsExposedAs name →
      Text.isIdentifier (constantName name).toList = true := by
    intro f member name exposed
    obtain ⟨a, read, -, -, rfl⟩ := FieldDefinition.isExposedAs_iff.mp exposed
    exact check f member a read
  have failed : expand (definition (before ++ skipped :: after)) = .error (.duplicateName "a") := by
    decide +kernel
  have read : skipped.recordAttribute = .ok (some ⟨none, true, none⟩) := by decide +kernel
  have hidden : skipped.IsHidden := .inr ⟨⟨none, true, none⟩, by decide +kernel, rfl⟩
  have fine (e : DeriveError) : ¬ skipped.HasBadAttribute e := by
    rw [← FieldDefinition.recordAttribute_eq_error_iff, read]
    nofun
  obtain ⟨-, -, structures⟩ := expand_rejections (definition (before ++ skipped :: after))
  obtain ⟨rejects, leaves⟩ := structures _ rfl
  obtain ⟨tuple, -, -⟩ := expand_rejections ⟨"Pair", [], .tuple⟩
  exact ⟨identifiers, failed, ((rejects identifiers).1 _).mp failed, hidden, fine,
    (leaves before skipped after rfl hidden fine).trans failed, tuple (.inl rfl)⟩

end RecordFilter
