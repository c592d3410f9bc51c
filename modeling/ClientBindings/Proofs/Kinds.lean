import ClientBindings.Proofs.Entries

/-!
# Kinds — the switch over the kinds of objects

The kinds of objects are an enumeration of the classes that have a record.  It is registered in front
of all sources, like any other enumeration, and the last values of an enumeration count.  A document
may declare an enumeration of the same name, though, and a class that mentions it takes the place of
the kinds.  Otherwise the kinds are still there when the sources are written, and the switch over
them covers every class with a record.

* `kindsOf` — the kinds of the objects of some classes;
* `Run.get?_enums_of_mentioned` — the values of an enumeration that a class mentions;
* `Run.get?_kinds_iff` — when the snapshot of a run holds the kinds;
* `Dispatch.covers_of_kinds` — a snapshot that holds them has a switch that covers the classes;
* `Snapshot.Exhaustive`, `Run.exhaustive_iff` — when the snapshot of a run covers the classes.
-/

namespace ClientBindings

/-- The classes that have a record. -/
def recordClasses (classes : List ApiClass) : List ApiClass :=
  classes.filter fun cls => !cls.isEmpty

/-- The kinds of the objects of some classes: names with descriptions, in the order of the classes. -/
def kindsOf (classes : List ApiClass) : List EnumValue :=
  (recordClasses classes).map fun cls => ⟨cls.name, cls.description⟩

theorem mem_recordClasses {classes : List ApiClass} {cls : ApiClass} :
    cls ∈ recordClasses classes ↔ cls ∈ classes ∧ cls.isEmpty = false := by
  simp [recordClasses]

/-! ## The registered kinds -/

namespace Schema

/-- A type that a schema uses is that of its kinds, or its classes mention it. -/
theorem uses_iff {schema : Schema} {part : Ty} :
    schema.Uses part ↔
      part = objectKinds schema.classes ∨
        ∃ cls ∈ schema.classes, ∃ ty ∈ cls.types, part ∈ ty.parts := by
  constructor
  · rintro ⟨root, hroot, hpart⟩
    rcases List.mem_cons.mp hroot with rfl | hroot
    · exact Or.inl (List.mem_singleton.mp hpart)
    · obtain ⟨cls, hcls, hty⟩ := List.mem_flatMap.mp hroot
      exact Or.inr ⟨cls, hcls, root, hty, hpart⟩
  · rintro (rfl | ⟨cls, hcls, ty, hty, hpart⟩)
    · exact uses_objectKinds schema
    · exact uses_part (uses_of_mem_types hcls hty) hpart

end Schema

namespace Run

variable {c : Config} {document : Json} {schema : Schema} {disk : Disk} {p : Progress}

/-- Classes register the enumerations that they mention. -/
theorem enum_mem_classRegistrations_iff {s : Settings} {classes : List ApiClass}
    (sources : ∀ cls ∈ classes, ∃ source, (Source.ClassSource.ofClass s cls).result = .ok source)
    {name : String} {values : List EnumValue} :
    .enum name values ∈ classRegistrations s classes ↔
      ∃ cls ∈ classes, ∃ ty ∈ cls.types, .enum name values ∈ ty.parts := by
  rw [mem_classRegistrations sources]
  simp [mem_recordRegistrations, registrationsOfTypes, Ty.enum_mem_registrations]

/-- An enumeration that a class mentions has the values that it is mentioned with, whatever was
registered in front of the classes. -/
theorem get?_enums_of_mentioned (parsed : Schema.ofDocument document = .ok schema)
    (completed : (classes c schema).Completes (Progress.start disk) () p) {name : String}
    {values : List EnumValue}
    (mentioned : ∃ cls ∈ schema.classes, ∃ ty ∈ cls.types, .enum name values ∈ ty.parts) :
    p.registry.freeze.2.enums.get? name = some values := by
  obtain ⟨enums, known⟩ := Schema.known_of_ofDocument parsed
  obtain ⟨sources, entered⟩ := registry_of_classes completed
  have held : p.registry.freeze.2.enums = (Registry.enterAll Registry.empty
      ((objectKinds schema.classes).registrations ++
        classRegistrations (c.settings schema) schema.classes)).enums :=
    congrArg Registry.enums entered
  -- All classes mention the name with the declared values.
  have declared : ∀ others, .enum name others ∈
      classRegistrations (c.settings schema) schema.classes → enums.get? name = some others := by
    intro others hothers
    obtain ⟨cls, hcls, ty, hty, hpart⟩ := (enum_mem_classRegistrations_iff sources).mp hothers
    exact (known cls hcls ty hty _ hpart).1
  have there : .enum name values ∈ classRegistrations (c.settings schema) schema.classes :=
    (enum_mem_classRegistrations_iff sources).mpr mentioned
  rw [held, Registry.enterAll_append]
  refine Registry.get?_enums_enterAll there ?_
  intro others hothers
  exact Option.some.inj ((declared others hothers).symm.trans (declared values there))

/-- Where no class mentions an enumeration of their name, nothing takes the place of the kinds of
objects. -/
theorem get?_kinds_of_unmentioned
    (completed : (classes c schema).Completes (Progress.start disk) () p)
    (unmentioned : ¬∃ values, ∃ cls ∈ schema.classes, ∃ ty ∈ cls.types,
      .enum objectKindsName values ∈ ty.parts) :
    p.registry.freeze.2.enums.get? objectKindsName = some (kindsOf schema.classes) := by
  obtain ⟨sources, entered⟩ := registry_of_classes completed
  have held : p.registry.freeze.2.enums = (Registry.enterAll Registry.empty
      ((objectKinds schema.classes).registrations ++
        classRegistrations (c.settings schema) schema.classes)).enums :=
    congrArg Registry.enums entered
  rw [held]
  refine Registry.get?_enums_enterAll (List.mem_append_left _ ?_) ?_
  · exact Ty.enum_mem_registrations.mpr (Ty.self_mem_parts _)
  · intro others hothers
    have used : schema.Uses (.enum objectKindsName others) :=
      (enum_mem_registrations_iff sources objectKindsName others).mp hothers
    rcases Schema.uses_iff.mp used with kinds | mentions
    · exact (Ty.enum.inj kinds).2
    · exact absurd ⟨others, mentions⟩ unmentioned

/-- The snapshot of a run holds the kinds of objects unless a class mentions an enumeration of their
name with other values. -/
theorem get?_kinds_iff (parsed : Schema.ofDocument document = .ok schema)
    (completed : (classes c schema).Completes (Progress.start disk) () p) :
    p.registry.freeze.2.enums.get? objectKindsName = some (kindsOf schema.classes) ↔
      ∀ values, schema.Uses (.enum objectKindsName values) → values = kindsOf schema.classes := by
  constructor
  · intro held values used
    rcases Schema.uses_iff.mp used with kinds | mentions
    · exact (Ty.enum.inj kinds).2
    · have last := get?_enums_of_mentioned parsed completed mentions
      exact Option.some.inj (last.symm.trans held)
  · intro only
    by_cases mentioned : ∃ values, ∃ cls ∈ schema.classes, ∃ ty ∈ cls.types,
        .enum objectKindsName values ∈ ty.parts
    · obtain ⟨values, mentions⟩ := mentioned
      rw [← only values (Schema.uses_iff.mpr (Or.inr mentions))]
      exact get?_enums_of_mentioned parsed completed mentions
    · exact get?_kinds_of_unmentioned completed mentioned

end Run

/-! ## The switch -/

namespace Shared
namespace Dispatch

/-- A case is that of a class if it stands for its kind and calls the decoder of its record. -/
structure CaseOf (cls : ApiClass) (case : DispatchCase) : Prop where
  kind : cls.name = .text case.kind
  decoder : decoderName (.record case.kind) = .ok case.decoder

theorem exists_caseOf {snapshot : Snapshot} {cls : ApiClass} {name : String}
    (named : cls.name = .text name) (registered : name ∈ snapshot.records.names) :
    ∃ case, caseOf snapshot cls.name = .ok case ∧ CaseOf cls case := by
  have has : snapshot.records.has name = true := Table.get?_isSome_iff.mpr registered
  refine ⟨⟨name, "to" ++ (Naming.classCase name ++ "Record")⟩, ?_, named, rfl⟩
  rw [named, caseOf, if_pos has]
  rfl

/-- Where a snapshot holds the kinds of objects, and a record of each, the switch over them has a
case for each class with a record, in order. -/
theorem covers_of_kinds {snapshot : Snapshot} {classes : List ApiClass}
    (kinds : snapshot.enums.get? objectKindsName = some (kindsOf classes))
    (registered : ∀ cls ∈ recordClasses classes,
      ∃ name, cls.name = .text name ∧ name ∈ snapshot.records.names) :
    ∃ d, ofSnapshot snapshot = .ok d ∧ List.Forall₂ CaseOf (recordClasses classes) d.cases := by
  have known : Dispatch.kinds snapshot = kindsOf classes := by simp [Dispatch.kinds, kinds]
  have covered : ∀ cls ∈ recordClasses classes, ∃ case, caseOf snapshot cls.name = .ok case ∧
      CaseOf cls case := by
    intro cls hcls
    obtain ⟨name, named, there⟩ := registered cls hcls
    exact exists_caseOf named there
  obtain ⟨cases, hcases, facts⟩ := Except.exists_mapM_eq_ok covered
  refine ⟨⟨"to" ++ Naming.classCase objectKindsName, Naming.camelCase Source.eventKindField, cases⟩,
    ?_, facts⟩
  refine Except.bind_eq_ok.mpr ⟨cases, ?_, rfl⟩
  rw [known, kindsOf, List.mapM_map]
  exact hcases

end Dispatch
end Shared

/-- A snapshot whose switch over the kinds of objects covers the classes of a schema: it holds their
names and descriptions, in order, and each has a case that calls the decoder of its record. -/
structure Snapshot.Exhaustive (schema : Schema) (snapshot : Snapshot) : Prop where
  kinds : snapshot.enums.get? objectKindsName = some (kindsOf schema.classes)
  covers : ∃ d, Shared.Dispatch.ofSnapshot snapshot = .ok d ∧
    List.Forall₂ Shared.Dispatch.CaseOf (recordClasses schema.classes) d.cases

namespace Run

/-- The snapshot of a run covers the classes exactly if every enumeration that the schema uses under
the name of the kinds has the kinds as its values. -/
theorem exhaustive_iff {c : Config} {document : Json} {schema : Schema} {disk : Disk} {p : Progress}
    (parsed : Schema.ofDocument document = .ok schema)
    (completed : (classes c schema).Completes (Progress.start disk) () p) :
    p.registry.freeze.2.Exhaustive schema ↔
      ∀ values, schema.Uses (.enum objectKindsName values) → values = kindsOf schema.classes := by
  have held := get?_kinds_iff parsed completed
  have sources := (registry_of_classes completed).1
  have records := (exact_of_classes parsed completed).mem_records
  constructor
  · intro exhaustive
    exact held.mp exhaustive.kinds
  · intro only
    have kinds := held.mpr only
    refine ⟨kinds, Shared.Dispatch.covers_of_kinds kinds ?_⟩
    intro cls hcls
    obtain ⟨there, filled⟩ := mem_recordClasses.mp hcls
    obtain ⟨source, hsource⟩ := sources cls there
    obtain ⟨name, named⟩ := Json.eq_text_of_isText (Source.texts_of_ofClass hsource).1
    exact ⟨name, named, (records name).mpr ⟨cls, there, filled, named⟩⟩

end Run

namespace Sample

set_option maxRecDepth 20000 in
theorem kinds_events :
    ((Run.collect? config disk events).any fun (schema, p) =>
      p.registry.freeze.2.enums.get? objectKindsName = some (kindsOf schema.classes)) = true := by
  decide +kernel

end Sample

namespace Run

theorem exhaustive_iff_events :
    ∃ schema p, Schema.ofDocument Sample.events = .ok schema ∧
      (classes Sample.config schema).Completes (Progress.start Sample.disk) () p ∧
      (∀ values, schema.Uses (.enum objectKindsName values) → values = kindsOf schema.classes) ∧
      p.registry.freeze.2.Exhaustive schema := by
  obtain ⟨⟨schema, p⟩, collected, kinds⟩ := (Option.any_eq_true _ _).mp Sample.kinds_events
  obtain ⟨parsed, completed⟩ := of_collect?_eq_some collected
  have only := (get?_kinds_iff parsed completed).mp (of_decide_eq_true kinds)
  exact ⟨schema, p, parsed, completed, only, (exhaustive_iff parsed completed).mpr only⟩

end Run

/-! ## A document that declares the kinds itself -/

namespace Sample

/-- A class mentions an enumeration that has the name of the kinds of objects. -/
def ghosts : Json :=
  .object [
    ("enums", .object [("XenAPIObjects", .list [.text "ghost"])]),
    ("classes", .list [
      .object [
        ("name", .text "vm"),
        ("fields", .list [typed "kind" "enum<XenAPIObjects>"])]])]

/-- The fault of the switch over the kinds, if it has one. -/
def switchFault? (snapshot : Snapshot) : Option Fault :=
  match Shared.Dispatch.ofSnapshot snapshot with
  | .error fault => some fault
  | .ok _ => none

set_option maxRecDepth 20000 in
theorem switchFault?_ghosts :
    ((Run.collect? config disk ghosts).any fun (_, p) =>
      switchFault? p.registry.freeze.2 = some (.missingSnapshotCase "ghost")) = true := by
  decide +kernel

end Sample

namespace Run

/-- The declared values take the place of the kinds, and the switch has no case for them. -/
theorem not_exhaustive_of_ghosts :
    ∃ schema p, Schema.ofDocument Sample.ghosts = .ok schema ∧
      (classes Sample.config schema).Completes (Progress.start Sample.disk) () p ∧
      Shared.Dispatch.ofSnapshot p.registry.freeze.2 = .error (.missingSnapshotCase "ghost") ∧
      ¬p.registry.freeze.2.Exhaustive schema := by
  obtain ⟨⟨schema, p⟩, collected, fault⟩ := (Option.any_eq_true _ _).mp Sample.switchFault?_ghosts
  obtain ⟨parsed, completed⟩ := of_collect?_eq_some collected
  have failed : Shared.Dispatch.ofSnapshot p.registry.freeze.2 =
      .error (.missingSnapshotCase "ghost") := by
    have found := of_decide_eq_true fault
    unfold Sample.switchFault? at found
    split at found
    · next hfault => rw [hfault, Option.some.inj found]
    · simp at found
  refine ⟨schema, p, parsed, completed, failed, ?_⟩
  rintro ⟨_, d, hd, _⟩
  rw [failed] at hd
  simp at hd

end Run
end ClientBindings
