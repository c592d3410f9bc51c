import ClientBindings.Proofs.Members

/-!
# EventRecord — members that the schema of events does not declare

The record of events has members besides those of its leaves: the record of the object that an event
is about, and the kind of that object.  The kind is left out where the schema declares it, and only
its wire name is looked for.  Nothing is looked for in front of the other member.  So the members of
the record can meet although the leaves of the class can be told apart.

* `RecordSource.Apart` — records whose members can be told apart;
* `ApiClass.apart_members_iff` — the leaves of a class and its other members;
* `Leaf.SparesEvent` — leaves that leave the names of the other members alone;
* `RecordSource.apart_iff_spares` — when the members of the record of events are told apart.
-/

namespace ClientBindings

/-! ## Other members -/

namespace ApiClass

variable {cls : ApiClass}

theorem nodup_names_syntheticMembers (cls : ApiClass) :
    (cls.syntheticMembers.map SyntheticMember.name).Nodup := by
  unfold syntheticMembers
  cases cls.lacksKind <;> cases cls.isEvent <;> decide +kernel

theorem nodup_wireNames_syntheticMembers (cls : ApiClass) :
    (cls.syntheticMembers.map SyntheticMember.wireName).Nodup := by
  unfold syntheticMembers
  cases cls.lacksKind <;> cases cls.isEvent <;> decide +kernel

/-- All members are called by their wire names in camel case. -/
theorem camelCase_wireName_of_mem {m : SyntheticMember} (h : m ∈ cls.syntheticMembers) :
    Naming.camelCase m.wireName = m.name := by
  rcases List.mem_append.mp h with kind | snapshot
  · have same : m = Source.eventKindMember Scalar.string.javaType := by
      simpa using (List.mem_ite_nil_right.mp kind).2
    rw [same]
    rfl
  · have same : m = Source.snapshotMember := by
      simpa using (List.mem_ite_nil_right.mp snapshot).2
    rw [same]
    decide +kernel

/-- Leaves that can be told apart can be told apart from the other members, too, unless one of them
is called like one of those. -/
theorem apart_members_iff (paths : (cls.leaves.map Leaf.path).Nodup)
    (names : (cls.leaves.map Leaf.memberName).Nodup) :
    (cls.members.map Prod.fst).Nodup ∧ (cls.members.map Prod.snd).Nodup ↔
      ∀ leaf ∈ cls.leaves, ∀ m ∈ cls.syntheticMembers, leaf.memberName ≠ m.name := by
  have named : cls.members.map Prod.fst =
      cls.leaves.map Leaf.memberName ++ cls.syntheticMembers.map SyntheticMember.name := by
    simp [members, Function.comp_def]
  have keyed : cls.members.map Prod.snd =
      cls.leaves.map Leaf.path ++ cls.syntheticMembers.map SyntheticMember.wireName := by
    simp [members, Function.comp_def]
  rw [named, keyed, List.nodup_append, List.nodup_append]
  -- What is left to ask is that no leaf meets another member.
  simp only [names, paths, nodup_names_syntheticMembers, nodup_wireNames_syntheticMembers,
    true_and, List.forall_mem_map]
  constructor
  · exact And.left
  · intro apart
    refine ⟨apart, ?_⟩
    -- Members of one wire name would have one name as well.
    intro leaf hleaf m hm same
    have clash : leaf.memberName = m.name := by
      rw [Leaf.memberName, same, camelCase_wireName_of_mem hm]
    exact apart leaf hleaf m hm clash

end ApiClass

/-! ## The class of events -/

/-- A leaf of the class of events that leaves the names of the other members alone: it is not called
like the record of an object, and like the kind only if it is the kind. -/
structure Leaf.SparesEvent (leaf : Leaf) : Prop where
  snapshot : leaf.memberName ≠ Source.snapshotField
  kind : leaf.memberName = Naming.camelCase Source.eventKindField →
    leaf.path = Source.eventKindField

instance (leaf : Leaf) : Decidable leaf.SparesEvent :=
  decidable_of_iff (leaf.memberName ≠ Source.snapshotField ∧
      (leaf.memberName = Naming.camelCase Source.eventKindField →
        leaf.path = Source.eventKindField))
    ⟨fun both => ⟨both.1, both.2⟩, fun spares => ⟨spares.snapshot, spares.kind⟩⟩

namespace ApiClass

variable {cls : ApiClass}

theorem spares_iff_of_isEvent (event : cls.isEvent = true)
    (names : (cls.leaves.map Leaf.memberName).Nodup) :
    (∀ leaf ∈ cls.leaves, ∀ m ∈ cls.syntheticMembers, leaf.memberName ≠ m.name) ↔
      ∀ leaf ∈ cls.leaves, leaf.SparesEvent := by
  by_cases lacks : cls.lacksKind = true
  · -- No leaf is the kind, so none may be called like it.
    have undeclared : ∀ leaf ∈ cls.leaves, leaf.path ≠ Source.eventKindField := by
      simpa [lacksKind, event] using lacks
    have others : cls.syntheticMembers =
        [Source.eventKindMember Scalar.string.javaType, Source.snapshotMember] := by
      simp [syntheticMembers, lacks, event]
    simp only [others, List.forall_mem_cons, List.not_mem_nil, false_implies, implies_true, and_true]
    constructor
    · intro apart leaf hleaf
      exact ⟨(apart leaf hleaf).2, fun same => absurd same (apart leaf hleaf).1⟩
    · intro spares leaf hleaf
      refine ⟨fun same => ?_, (spares leaf hleaf).snapshot⟩
      exact undeclared leaf hleaf ((spares leaf hleaf).kind same)
  · -- The leaf that is the kind is the only one that is called like it.
    have declared : ∃ kind ∈ cls.leaves, kind.path = Source.eventKindField := by
      simpa [lacksKind, event] using lacks
    rcases declared with ⟨kind, hkind, path⟩
    have others : cls.syntheticMembers = [Source.snapshotMember] := by
      simp [syntheticMembers, lacks, event]
    simp only [others, List.forall_mem_singleton]
    constructor
    · intro apart leaf hleaf
      refine ⟨apart leaf hleaf, fun same => ?_⟩
      have called : leaf.memberName = kind.memberName := by
        rw [same, Leaf.memberName, path]
      calc leaf.path
          = kind.path := congrArg Leaf.path (List.inj_on_of_nodup_map names hleaf hkind called)
        _ = Source.eventKindField := path
    · intro spares leaf hleaf
      exact (spares leaf hleaf).snapshot

end ApiClass

namespace Source
namespace RecordSource

variable {record : RecordSource} {members : List (String × String)}

/-- In each of the lists of a record, the members have names and wire names of their own. -/
structure Apart (record : RecordSource) : Prop where
  printed : record.printed.Nodup
  mapped : (record.mapped.map MapEntry.name).Nodup
  mappedKeys : (record.mapped.map MapEntry.wireKey).Nodup
  declared : (record.declared.map Declaration.name).Nodup
  declaredKeys : (record.declared.map Declaration.wireKey).Nodup

theorem Lists.apart_iff (lists : record.Lists members) :
    record.Apart ↔ (members.map Prod.fst).Nodup ∧ (members.map Prod.snd).Nodup := by
  have mapped : record.mapped.map MapEntry.name = members.map Prod.fst ∧
      record.mapped.map MapEntry.wireKey = members.map Prod.snd := by
    simp [← lists.mapped, Function.comp_def]
  have declared : record.declared.map Declaration.name = members.map Prod.fst ∧
      record.declared.map Declaration.wireKey = members.map Prod.snd := by
    simp [← lists.declared, Function.comp_def]
  constructor
  · intro apart
    exact ⟨mapped.1 ▸ apart.mapped, mapped.2 ▸ apart.mappedKeys⟩
  · rintro ⟨names, keys⟩
    exact ⟨lists.printed.symm ▸ names, mapped.1.symm ▸ names, mapped.2.symm ▸ keys,
      declared.1.symm ▸ names, declared.2.symm ▸ keys⟩

/-- The members of the record of events are told apart exactly if no leaf is called like a member
that the schema does not declare. -/
theorem apart_iff_spares {s : Settings} {cls : ApiClass} {source : ClassSource}
    (event : cls.isEvent = true) (filled : cls.isEmpty = false)
    (paths : (cls.leaves.map Leaf.path).Nodup)
    (names : (cls.leaves.map Leaf.memberName).Nodup)
    (made : (ClassSource.ofClass s cls).result = .ok source) :
    ∃ record, source.record = some record ∧ record.Lists cls.members ∧
      (record.Apart ↔ ∀ leaf ∈ cls.leaves, leaf.SparesEvent) := by
  rcases record_of_ofClass filled made with ⟨record, inSource, written⟩
  have lists := lists_of_ofClass written
  refine ⟨record, inSource, lists, ?_⟩
  calc record.Apart
      ↔ (cls.members.map Prod.fst).Nodup ∧ (cls.members.map Prod.snd).Nodup := lists.apart_iff
    _ ↔ ∀ leaf ∈ cls.leaves, ∀ m ∈ cls.syntheticMembers, leaf.memberName ≠ m.name :=
        ApiClass.apart_members_iff paths names
    _ ↔ ∀ leaf ∈ cls.leaves, leaf.SparesEvent := ApiClass.spares_iff_of_isEvent event names

end RecordSource
end Source

/-! ## Events that declare a kind, and a record of an object -/

namespace Sample

/-- The class of events with a field of a name. -/
def changes (field : String) : Json :=
  .object [
    ("classes", .list [
      .object [
        ("name", .text "event"),
        ("fields", .list [typed "obj_uuid" "string", typed field "string"])]])]

/-- The class of events, with leaves that can be told apart. -/
def HasEvents (cls : ApiClass) : Prop :=
  cls.isEvent = true ∧ cls.isEmpty = false ∧ (cls.leaves.map Leaf.path).Nodup ∧
    (cls.leaves.map Leaf.memberName).Nodup

instance (cls : ApiClass) : Decidable (HasEvents cls) := by
  unfold HasEvents
  infer_instance

set_option maxRecDepth 20000 in
theorem spares_changes_class :
    ((firstSource? (changes "class")).any fun (_, cls, _) =>
      HasEvents cls ∧ ∀ leaf ∈ cls.leaves, leaf.SparesEvent) = true := by
  decide +kernel

set_option maxRecDepth 20000 in
theorem printed_changes_snapshot :
    ((firstSource? (changes "snapshot")).any fun (_, cls, source) => HasEvents cls ∧
      source.record.any fun record => ¬record.printed.Nodup) = true := by
  decide +kernel

end Sample

namespace Source
namespace RecordSource

theorem apart_iff_spares_changes :
    ∃ schema cls source, Schema.ofDocument (Sample.changes "class") = .ok schema ∧
      cls ∈ schema.classes ∧
      (ClassSource.ofClass (Sample.config.settings schema) cls).result = .ok source ∧
      Sample.HasEvents cls ∧ ∃ record, source.record = some record ∧ record.Apart := by
  rcases (Option.any_eq_true _ _).mp Sample.spares_changes_class
    with ⟨⟨schema, cls, source⟩, first, facts⟩
  rcases of_decide_eq_true facts with ⟨events, spares⟩
  rcases Sample.of_firstSource?_eq_some first with ⟨parsed, hcls, made⟩
  rcases apart_iff_spares events.1 events.2.1 events.2.2.1 events.2.2.2 made
    with ⟨record, inSource, _, apart⟩
  exact ⟨schema, cls, source, parsed, hcls, made, events, record, inSource, apart.mpr spares⟩

/-- A field that is called like the record of an object is there twice. -/
theorem not_apart_of_snapshot :
    ∃ schema cls source, Schema.ofDocument (Sample.changes "snapshot") = .ok schema ∧
      cls ∈ schema.classes ∧
      (ClassSource.ofClass (Sample.config.settings schema) cls).result = .ok source ∧
      Sample.HasEvents cls ∧ ∃ record, source.record = some record ∧ ¬record.Apart := by
  rcases (Option.any_eq_true _ _).mp Sample.printed_changes_snapshot
    with ⟨⟨schema, cls, source⟩, first, facts⟩
  rcases of_decide_eq_true facts with ⟨events, twice⟩
  rcases Sample.of_firstSource?_eq_some first with ⟨parsed, hcls, made⟩
  rcases (Option.any_eq_true _ _).mp twice with ⟨record, inSource, twice⟩
  refine ⟨schema, cls, source, parsed, hcls, made, events, record, inSource, ?_⟩
  intro apart
  exact of_decide_eq_true twice apart.printed

end RecordSource
end Source
end ClientBindings
