import ClientBindings.Proofs.Outcome
import ClientBindings.Proofs.Texts

/-!
# RunFaults — why a run stops

A schema of texts leaves few ways for a run to stop, once its files can be written.  Before the
registry is frozen a member may be a record, which has no default.  Afterwards the layout of a record
or the case of a kind of objects may be missing.  A description that is missing may stop the run in
either phase.  In particular the shared sources register nothing, no scalar kind is unknown, and the
templates find all their values.

* `Schema.ClassFault`, `Schema.SharedFault` — the faults of the two phases;
* `Snapshot.Readable`, `Run.readable_of_classes` — a snapshot that the shared sources can be declared
  from but for faults of some kind, and that of a run;
* `Shared.declarations_failsOnly` — what keeps the shared sources from being declared;
* `Run.Classified`, `Run.classified_of_ready` — runs stop with no other faults.
-/

namespace ClientBindings

open Emission

namespace Schema

variable {document : Json} {schema : Schema}

/-! ## Faults in front of the shared sources -/

/-- The faults that may end a run before the registry is frozen. -/
inductive ClassFault (schema : Schema) : Fault → Prop where
  | recordWithoutDefault (cls : String) : ClassFault schema (.recordWithoutDefault cls)
  | textExpected : .null ∈ schema.descriptions → ClassFault schema .textExpected

theorem classFault_of_kinds (texts : schema.Texts) :
    Except.FailsOnly schema.ClassFault (objectKinds schema.classes).javaType.settled :=
  Sound.settled_failsOnly (Ty.javaType_sound (Ty.apt_of_resolves (resolves_objectKinds texts)))

theorem classFault_of_sourceOf (parsed : ofDocument document = .ok schema) (texts : schema.Texts)
    {cls : ApiClass} (hcls : cls ∈ schema.classes) (c : Config) :
    Except.FailsOnly schema.ClassFault (Run.sourceOf c schema cls) := by
  have emits : cls.Emits schema.ClassFault := emits_of_texts parsed texts .textExpected hcls
  exact Sound.settled_failsOnly (Source.ofClass_sound emits .recordWithoutDefault)

/-! ## Faults of the shared sources -/

/-- The faults that may end a run once the registry is frozen. -/
inductive SharedFault (schema : Schema) : Fault → Prop where
  | unregisteredRecord (cls : String) : SharedFault schema (.unregisteredRecord cls)
  | missingSnapshotCase (kind : String) : SharedFault schema (.missingSnapshotCase kind)
  | textExpected : .null ∈ schema.descriptions → SharedFault schema .textExpected

end Schema

/-- A kind of faults that allows for gaps in a snapshot. -/
structure Fault.AllowsGaps (P : Fault → Prop) : Prop where
  unregisteredRecord : ∀ cls, P (.unregisteredRecord cls)
  missingSnapshotCase : ∀ kind, P (.missingSnapshotCase kind)

theorem Schema.allowsGaps_sharedFault (schema : Schema) : Fault.AllowsGaps schema.SharedFault :=
  ⟨.unregisteredRecord, .missingSnapshotCase⟩

/-- A snapshot that the shared sources can be declared from but for faults of the kind `P`. -/
structure Snapshot.Readable (P : Fault → Prop) (snapshot : Snapshot) : Prop where
  types : ∀ ty ∈ snapshot.types, ty.Resolves
  layouts : ∀ name layout, snapshot.records.get? name = some layout →
    ∀ member ∈ layout, member.2.Resolves
  values : ∀ e ∈ snapshot.enums, ∀ v ∈ e.2, v.wire.isText = true ∧ v.description.TextOr P

namespace Run

variable {c : Config} {document : Json} {schema : Schema} {disk : Disk} {p : Progress}
  {P : Fault → Prop}

/-- The schema uses every enumeration that its classes have registered. -/
theorem uses_of_mem_enums (completed : (classes c schema).Completes (Progress.start disk) () p)
    {e : String × List EnumValue} (he : e ∈ p.registry.freeze.2.enums) :
    schema.Uses (.enum e.1 e.2) := by
  obtain ⟨sources, entered⟩ := registry_of_classes completed
  have held : p.registry.freeze.2.enums = p.registry.enums := rfl
  rw [held, entered] at he
  exact (enum_mem_registrations_iff sources e.1 e.2).mp (Registry.enum_mem_of_mem_enterAll he)

theorem readable_of_classes (parsed : Schema.ofDocument document = .ok schema)
    (texts : schema.Texts) (allowed : .null ∈ schema.descriptions → P .textExpected)
    (completed : (classes c schema).Completes (Progress.start disk) () p) :
    p.registry.freeze.2.Readable P := by
  have types : ∀ ty ∈ p.registry.freeze.2.types, ty.Resolves := by
    intro ty hty
    obtain ⟨root, hroot, hpart⟩ := (mem_types_of_classes parsed completed ty).mp hty
    rcases List.mem_cons.mp hroot with rfl | hroot
    · exact Ty.resolves_of_part (Schema.resolves_objectKinds texts) hpart
    · obtain ⟨cls, hcls, hmem⟩ := List.mem_flatMap.mp hroot
      exact Ty.resolves_of_part (Schema.resolves_of_texts parsed texts hcls hmem) hpart
  refine ⟨types, ?_, ?_⟩
  · intro name layout hlayout member hmember
    have closed := closed_of_classes parsed completed
    exact types _ (closed.layout_mem name layout hlayout member hmember)
  · intro e he v hv
    have used := uses_of_mem_enums completed he
    -- The values are those of the kinds, or those of an enumeration that a class mentions.
    have values : v.wire.isText = true ∧ v.description ∈ schema.descriptions := by
      rcases Schema.uses_iff.mp used with kinds | ⟨cls, hcls, ty, hty, hpart⟩
      · have same : e.2 = kindsOf schema.classes := (Ty.enum.inj kinds).2
        rw [same] at hv
        obtain ⟨cls, hcls, rfl⟩ := List.mem_map.mp hv
        have there := (mem_recordClasses.mp hcls).1
        exact ⟨texts.names _ (Schema.name_mem_names there List.mem_cons_self),
          Schema.description_mem_descriptions there List.mem_cons_self⟩
      · refine Schema.value_of_texts texts hcls (List.mem_flatMap.mpr ⟨ty, hty, ?_⟩)
        exact Ty.mem_values.mpr ⟨e.1, e.2, hpart, hv⟩
    exact ⟨values.1, Schema.textOr_of_texts texts allowed values.2⟩

end Run

namespace Shared

variable {P : Fault → Prop} {snapshot : Snapshot}

/-! ### Decoders -/

section Decoders

variable {ty : Ty}

theorem decoderName_failsOnly (h : ty.Resolves) :
    Except.FailsOnly P (decoderName ty) :=
  (Ty.decoderName_sound (Ty.apt_of_resolves h)).faults

theorem typeName_failsOnly (h : ty.Resolves) :
    Except.FailsOnly P (typeName ty) :=
  (Ty.javaType_sound (Ty.apt_of_resolves h)).faults

theorem Dispatch.failsOnly (gaps : Fault.AllowsGaps P) (readable : snapshot.Readable P) :
    Except.FailsOnly P (Dispatch.ofSnapshot snapshot) := by
  -- The kinds are the values of an enumeration, if the snapshot has one of their name.
  have wires : ∀ kind ∈ Dispatch.kinds snapshot, kind.wire.isText = true := by
    intro kind hkind
    unfold Dispatch.kinds at hkind
    cases hvalues : snapshot.enums.get? objectKindsName with
    | none => simp [hvalues] at hkind
    | some values =>
      rw [hvalues] at hkind
      exact (readable.values _ (Table.mem_of_lookup_eq_some hvalues) kind hkind).1
  unfold Dispatch.ofSnapshot
  refine Except.FailsOnly.bind (Except.FailsOnly.mapM fun kind hkind => ?_) fun cases _ => ?_
  · obtain ⟨cls, hcls⟩ := Json.eq_text_of_isText (wires kind hkind)
    rw [hcls]
    unfold Dispatch.caseOf
    dsimp only
    split
    · exact (decoderName_failsOnly (Ty.resolves_record cls)).map _
    · exact Except.FailsOnly.error (gaps.missingSnapshotCase cls)
  · exact (Except.FailsOnly.ok _).bind fun _ _ => Except.FailsOnly.ok _

theorem Decoder.ofRecord_failsOnly (gaps : Fault.AllowsGaps P) (readable : snapshot.Readable P)
    (cls : String) : Except.FailsOnly P (Decoder.ofRecord snapshot cls) := by
  unfold Decoder.ofRecord
  refine Except.FailsOnly.bind ?_ fun layout hlayout => ?_
  · unfold Decoder.recordLayout
    split
    · exact Except.FailsOnly.ok _
    · exact Except.FailsOnly.error (gaps.unregisteredRecord cls)
  · -- Types of members resolve, so what is left to fail is the switch of an event.
    have members := readable.layouts cls layout (Decoder.recordLayout_eq_ok hlayout)
    refine Except.FailsOnly.bind (Except.FailsOnly.mapM fun member hmember => ?_) fun _ _ => ?_
    · have named : Except.FailsOnly P (decoderName member.2) :=
        decoderName_failsOnly (members member hmember)
      exact named.bind fun _ _ => Except.FailsOnly.ok _
    · dsimp only
      split
      · exact ((Dispatch.failsOnly gaps readable).map some).bind fun _ _ => Except.FailsOnly.ok _
      · exact (Except.FailsOnly.ok none).bind fun _ _ => Except.FailsOnly.ok _

theorem Decoder.ofType_failsOnly (gaps : Fault.AllowsGaps P) (readable : snapshot.Readable P)
    (h : ty.Resolves) : Except.FailsOnly P (Decoder.ofType snapshot ty) := by
  induction ty with
  | primitive kind =>
    obtain ⟨s, rfl⟩ := h _ (Ty.self_mem_parts _)
    unfold Decoder.ofType
    rw [Scalar.ofName?_name]
    exact Except.FailsOnly.ok _
  | enum name values => exact Except.FailsOnly.ok _
  | ref cls => exact Except.FailsOnly.ok _
  | record cls => exact Decoder.ofRecord_failsOnly gaps readable cls
  | option inner ih => exact ih (Ty.resolves_of_part h inner.inner_mem_parts)
  | set item ih =>
    have hitem := Ty.resolves_of_part h item.item_mem_parts
    unfold Decoder.ofType
    refine (typeName_failsOnly hitem).bind fun _ _ => ?_
    exact (decoderName_failsOnly hitem).bind fun _ _ => Except.FailsOnly.ok _
  | map key value ihKey ihValue =>
    have hkey := Ty.resolves_of_part h (Ty.key_mem_parts key value)
    have hvalue := Ty.resolves_of_part h (Ty.value_mem_parts key value)
    unfold Decoder.ofType
    refine (typeName_failsOnly hkey).bind fun _ _ => ?_
    refine (typeName_failsOnly hvalue).bind fun _ _ => ?_
    refine (decoderName_failsOnly hkey).bind fun _ _ => ?_
    exact (decoderName_failsOnly hvalue).bind fun _ _ => Except.FailsOnly.ok _

end Decoders

/-! ### Declarations -/

theorem decodedTypes_failsOnly (gaps : Fault.AllowsGaps P) (readable : snapshot.Readable P) :
    Except.FailsOnly P (decodedTypes snapshot) := by
  unfold decodedTypes
  split
  · exact (Dispatch.failsOnly gaps readable).bind fun _ _ => Except.FailsOnly.ok _
  · exact Except.FailsOnly.ok _

/-- A layout or a case that is missing keeps the functions from being declared, and nothing else
does. -/
theorem typeEntries_failsOnly (gaps : Fault.AllowsGaps P) (readable : snapshot.Readable P) :
    Except.FailsOnly P (typeEntries snapshot) := by
  unfold typeEntries
  refine (decodedTypes_failsOnly gaps readable).bind fun types htypes => ?_
  refine Except.FailsOnly.bind ?_ fun _ _ => Except.FailsOnly.ok _
  refine Except.FailsOnly.foldlM (fun entries ty hty => ?_) []
  -- Whatever needs a function is a type of the snapshot, or a record.
  have resolves : ty.Resolves := by
    rcases mem_or_record_of_mem_decodedTypes htypes hty with there | ⟨cls, rfl⟩
    · exact readable.types ty there
    · exact Ty.resolves_record cls
  unfold addType typeEntry
  refine (decoderName_failsOnly resolves).bind fun _ _ => ?_
  split
  · exact Except.FailsOnly.ok _
  · refine Except.FailsOnly.bind ?_ fun _ _ => Except.FailsOnly.ok _
    refine (typeName_failsOnly resolves).bind fun _ _ => ?_
    exact (Decoder.ofType_failsOnly gaps readable resolves).bind fun _ _ => Except.FailsOnly.ok _

theorem enumEntries_failsOnly (readable : snapshot.Readable P) :
    Except.FailsOnly P (enumEntries snapshot) := by
  unfold enumEntries
  refine Except.FailsOnly.mapM fun e he => ?_
  have values := readable.values e (mem_sortedBy.mp he)
  unfold enumEntry
  refine Except.FailsOnly.bind (Except.FailsOnly.mapM fun v hv => ?_) fun _ _ =>
    Except.FailsOnly.ok _
  obtain ⟨wire, description⟩ := values v hv
  unfold enumConstant
  refine (Json.asText_failsOnly description).bind fun _ _ => ?_
  exact (Json.asText_failsOnly (Or.inl wire)).bind fun _ _ => Except.FailsOnly.ok _

theorem errorEntries_failsOnly {errors : List ErrorDef}
    (h : ∀ e ∈ errors, e.Emits P) : Except.FailsOnly P (errorEntries errors) := by
  -- Errors that are all named by texts can be sorted.
  have sorted := sortedErrors_of_texts fun e he => (h e he).named
  unfold errorEntries
  rw [sorted]
  refine Except.FailsOnly.mapM fun e he => ?_
  have emits := h e (mem_sortedBy.mp he)
  unfold errorEntry
  refine Except.FailsOnly.bind (Except.FailsOnly.mapM fun param hparam => ?_) fun _ _ => ?_
  · exact Json.asText_failsOnly (Or.inl (emits.params param hparam))
  · refine (Comment.described_failsOnly emits.description).bind fun _ _ => ?_
    exact (Json.asText_failsOnly (Or.inl emits.named)).bind fun _ _ => Except.FailsOnly.ok _

/-- A layout or a case that is missing, or a description, keeps the shared sources from being
declared, and nothing else does. -/
theorem declarations_failsOnly (gaps : Fault.AllowsGaps P) (readable : snapshot.Readable P)
    {errors : List ErrorDef} (h : ∀ e ∈ errors, e.Emits P) :
    Except.FailsOnly P (declarations snapshot errors) := by
  unfold declarations
  refine (errorEntries_failsOnly h).bind fun _ _ => ?_
  refine (enumEntries_failsOnly readable).bind fun _ _ => ?_
  exact (typeEntries_failsOnly gaps readable).bind fun _ _ => Except.FailsOnly.ok _

end Shared

/-! ## Runs -/

namespace Run

/-- The faults with which a run may stop. -/
structure Classified (schema : Schema) (outcome : Outcome) : Prop where
  /-- In front of the shared sources, a record without a default or a missing description. -/
  classes : ∀ fault, outcome.result = .error fault → outcome.progress.registry.frozen = false →
    schema.ClassFault fault
  /-- Behind them, a missing layout, a missing case or a missing description. -/
  shared : ∀ fault, outcome.result = .error fault → outcome.progress.registry.frozen = true →
    schema.SharedFault fault
  /-- A text is missed only where a description is. -/
  missing : outcome.result = .error .textExpected → .null ∈ schema.descriptions
  /-- A frozen registry is never written. -/
  unfrozen : ∀ what, outcome.result ≠ .error (.registryFrozen what)
  known : ∀ kind, outcome.result ≠ .error (.unknownScalar kind)
  /-- The templates find all their values. -/
  defined : outcome.result ≠ .error .undefinedValue

theorem fault_of_ready {c : Config} {document : Json} {schema : Schema} {disk : Disk} {fault : Fault}
    (parsed : Schema.ofDocument document = .ok schema) (texts : schema.Texts)
    (ready : c.Ready schema disk) (failed : (run c schema).result = .error fault) :
    ((run c schema).progress.registry.frozen = false ∧ schema.ClassFault fault) ∨
      ((run c schema).progress.registry.frozen = true ∧ schema.SharedFault fault) := by
  -- Each way in which a run fails names the step that failed, and the fault is that of the step.
  cases ends_of_ready ready with
  | unstarted hkinds result leaves =>
    rw [failed] at result
    rw [Except.error.inj result]
    exact Or.inl ⟨leaves.frozen, Schema.classFault_of_kinds texts _ hkinds⟩
  | stopped split _ hcls result leaves =>
    have there := split ▸ List.mem_append_right _ List.mem_cons_self
    rw [failed] at result
    rw [Except.error.inj result]
    exact Or.inl ⟨leaves.frozen, Schema.classFault_of_sourceOf parsed texts there c _ hcls⟩
  | failed _ completed declared result leaves =>
    -- The shared sources see the snapshot of the registry that the classes have filled.
    have readable := readable_of_classes parsed texts Schema.SharedFault.textExpected completed
    have errors : ∀ e ∈ schema.errors, e.Emits schema.SharedFault := fun e he =>
      Schema.error_emits_of_texts texts Schema.SharedFault.textExpected he
    rw [failed] at result
    rw [Except.error.inj result]
    have only := Shared.declarations_failsOnly schema.allowsGaps_sharedFault readable errors
    exact Or.inr ⟨leaves.frozen, only _ declared⟩
  | completed _ result _ _ => simp [failed] at result

/-- A run over a parsed schema of texts, whose files can be written, stops with no other faults. -/
theorem classified_of_ready {c : Config} {document : Json} {schema : Schema} {disk : Disk}
    (parsed : Schema.ofDocument document = .ok schema) (texts : schema.Texts)
    (ready : c.Ready schema disk) : Classified schema (run c schema) := by
  refine ⟨?_, ?_, ?_, ?_, ?_, ?_⟩
  · intro fault failed opened
    rcases fault_of_ready parsed texts ready failed with ⟨_, classFault⟩ | ⟨frozen, _⟩
    · exact classFault
    · simp [opened] at frozen
  · intro fault failed frozen
    rcases fault_of_ready parsed texts ready failed with ⟨opened, _⟩ | ⟨_, sharedFault⟩
    · simp [frozen] at opened
    · exact sharedFault
  · intro failed
    rcases fault_of_ready parsed texts ready failed with ⟨_, classFault⟩ | ⟨_, sharedFault⟩
    · cases classFault with
      | textExpected missing => exact missing
    · cases sharedFault with
      | textExpected missing => exact missing
  · intro what failed
    rcases fault_of_ready parsed texts ready failed with ⟨_, fault⟩ | ⟨_, fault⟩ <;> cases fault
  · intro kind failed
    rcases fault_of_ready parsed texts ready failed with ⟨_, fault⟩ | ⟨_, fault⟩ <;> cases fault
  · intro failed
    rcases fault_of_ready parsed texts ready failed with ⟨_, fault⟩ | ⟨_, fault⟩ <;> cases fault

end Run

namespace Sample

/-- A class with its own record for a member. -/
def nested : Json :=
  .object [("classes", .list [
    .object [("name", .text "vm"), ("fields", .list [typed "self" "record<vm>"])]])]

set_option maxRecDepth 20000 in
theorem ready_nested :
    ((prepared? config nested).any fun (schema, disk) =>
      schema.Texts ∧ config.Ready schema disk ∧
        fault? (run config schema) = some (.recordWithoutDefault "vm")) = true := by
  decide +kernel

end Sample

namespace Run

theorem classified_of_ready_nested :
    ∃ schema disk, Schema.ofDocument Sample.nested = .ok schema ∧ schema.Texts ∧
      Sample.config.Ready schema disk ∧
      (run Sample.config schema).result = .error (.recordWithoutDefault "vm") ∧
      Classified schema (run Sample.config schema) := by
  obtain ⟨⟨schema, disk⟩, prepared, facts⟩ := (Option.any_eq_true _ _).mp Sample.ready_nested
  obtain ⟨parsed, _⟩ := Sample.of_prepared?_eq_some prepared
  obtain ⟨texts, ready, failed⟩ := of_decide_eq_true facts
  exact ⟨schema, disk, parsed, texts, ready, Sample.result_of_fault? failed,
    classified_of_ready parsed texts ready⟩

end Run

/-! ## A name that leads into a folder -/

namespace Sample

/-- The source of this class would go into a folder that is not there. -/
def slashed : Json :=
  .object [("classes", .list [.object [("name", .text "a/b")]])]

set_option maxRecDepth 20000 in
theorem unclassified_slashed :
    ((prepared? config slashed).any fun (schema, disk) =>
      schema.Texts ∧
        (∀ name ∈ ["Types", "APIVersion"],
          disk.Takes (config.classDir.child (name ++ Disk.extension))) ∧
        fault? (run config schema) = some (.disk .notFound) ∧
        (run config schema).progress.registry.frozen = false) = true := by
  decide +kernel

end Sample

namespace Run

/-- The run stops in front of the shared sources for neither of the two reasons: a slash in the name
of a class leads its file elsewhere. -/
theorem not_classified_of_slashed :
    ∃ schema disk, Schema.ofDocument Sample.slashed = .ok schema ∧ schema.Texts ∧
      Sample.config.templates = none ∧ Sample.config.licenceFile = none ∧
      Sample.config.given.make Sample.config.classDir = .ok disk ∧
      (∀ name ∈ ["Types", "APIVersion"],
        disk.Takes (Sample.config.classDir.child (name ++ Disk.extension))) ∧
      (run Sample.config schema).result = .error (.disk .notFound) ∧
      (run Sample.config schema).progress.registry.frozen = false ∧
      ¬Classified schema (run Sample.config schema) := by
  obtain ⟨⟨schema, disk⟩, prepared, facts⟩ :=
    (Option.any_eq_true _ _).mp Sample.unclassified_slashed
  obtain ⟨parsed, made⟩ := Sample.of_prepared?_eq_some prepared
  obtain ⟨texts, takes, fault, opened⟩ := of_decide_eq_true facts
  have failed := Sample.result_of_fault? fault
  refine ⟨schema, disk, parsed, texts, rfl, rfl, made, takes, failed, opened, ?_⟩
  intro classified
  have classFault := classified.classes _ failed opened
  -- The fault is one of the disk, and neither of the two that are allowed.
  cases classFault

end Run
end ClientBindings
