import ClientBindings.Proofs.Presentable

/-!
# Stops — where the source of a class stops

The map of a record has a default for each of its members, and a member that is a record has none.
So the source of a class stops at its first leaf of such a type, whatever options are around it.  By
then the layout of the class is registered, and nothing is written of its members and its methods.
Records in sets and maps, in parameters and in answers need no default.

* `Emission.StopsWith` — an emission that fails, with the records that it has registered;
* `Ty.defaultValue_stopsWith` — the default of a record;
* `ApiClass.FirstBare`, `ClassSource.ofClass_stopsWith` — where the source of a class stops;
* `ClassSource.StopsAtRecords`, `stopsAtRecords_of_presentable` — how it ends in a registry, where
  nothing that it asks for is missing.
-/

namespace ClientBindings

/-! ## Emissions that stop -/

namespace Emission

variable {α β : Type} {m : Emission α} {fault : Fault} {records : List (Json × List (String × Ty))}

/-- An emission registers no record, whether it completes or not. -/
def RegistersNoRecord (m : Emission α) : Prop :=
  ∀ cls layout, .record cls layout ∉ m.registered

theorem RegistersNoRecord.liftM (e : Except Fault α) : (liftM e : Emission α).RegistersNoRecord := by
  intro cls layout
  simp

theorem Registers.registersNoRecord {rs : List Registration} {a : α} (h : m.Registers rs)
    (completed : m.result = .ok a) (none : ∀ cls layout, .record cls layout ∉ rs) :
    m.RegistersNoRecord := by
  intro cls layout there
  exact none cls layout ((h a completed _).mp there)

/-- An emission fails, and has registered some records until then. -/
structure StopsWith (m : Emission α) (fault : Fault) (records : List (Json × List (String × Ty))) :
    Prop where
  result : m.result = .error fault
  mem_iff : ∀ cls layout, .record cls layout ∈ m.registered ↔ (cls, layout) ∈ records

namespace StopsWith

theorem fail (fault : Fault) : (fail fault : Emission α).StopsWith fault [] :=
  ⟨rfl, fun _ _ => by simp [Emission.fail, registered, registrationsOf]⟩

/-- Nothing comes behind an emission that stops. -/
theorem bind (h : m.StopsWith fault records) (f : α → Emission β) :
    (m >>= f).StopsWith fault records := by
  constructor
  · rw [result_bind, h.result]
    rfl
  · rw [registered_bind_of_error h.result]
    exact h.mem_iff

/-- A step that completes and registers no record may stand in front. -/
theorem behind {f : α → Emission β} {a : α} (completed : m.result = .ok a)
    (none : m.RegistersNoRecord) (h : (f a).StopsWith fault records) :
    (m >>= f).StopsWith fault records := by
  constructor
  · rw [result_bind, completed]
    exact h.result
  · intro cls layout
    simp [registered_bind_of_ok completed, none cls layout, h.mem_iff]

theorem behind_record {f : Unit → Emission β} (h : (f ()).StopsWith fault records) (cls : Json)
    (layout : List (String × Ty)) :
    (meet (.registration (.record cls layout)) >>= f).StopsWith fault ((cls, layout) :: records) := by
  constructor
  · rw [result_bind, result_meet]
    exact h.result
  · intro other fields
    simp [registered_bind_of_ok (result_meet _), h.mem_iff]

/-- A list of steps stops where the first of them stops. -/
theorem mapM {f : α → Emission β} {before after : List α} {x : α} (h : (f x).StopsWith fault [])
    (front : ∀ y ∈ before, (∃ b, (f y).result = .ok b) ∧ (f y).RegistersNoRecord) :
    ((before ++ x :: after).mapM f).StopsWith fault [] := by
  -- The induction is on the steps in front, all of which complete.
  induction before with
  | nil =>
    rw [List.nil_append, List.mapM_cons]
    exact h.bind _
  | cons y rest ih =>
    rcases front y List.mem_cons_self with ⟨⟨b, completed⟩, none⟩
    have tail := ih fun z hz => front z (List.mem_cons_of_mem _ hz)
    rw [List.cons_append, List.mapM_cons]
    exact behind completed none (tail.bind _)

end StopsWith

/-- A fault of the schema is the emission's own, behind registrations that a registry takes. -/
theorem result_of_reported (h : m.settled = .error fault) (reported : fault.Reported) :
    m.result = .error fault ∧ m.registered.all Registration.isPlain = true := by
  rw [settled_eq] at h
  split at h
  · next plain => exact ⟨h, plain⟩
  · cases h
    cases reported

end Emission

/-! ## Types -/

namespace Ty

open Emission

theorem meet_registersNoRecord (ty : Ty) : ty.meet.RegistersNoRecord := by
  intro cls layout
  rw [registered_meet]
  exact record_not_mem_entries

/-- Looking for the default of a record ends behind its options. -/
theorem defaultValue_stopsWith (overrides : Overrides) {ty : Ty} {cls : String}
    (bare : ty.eraseOption = record cls) :
    (ty.defaultValue overrides).StopsWith (.recordWithoutDefault cls) [] := by
  induction ty with
  | option inner ih =>
    unfold defaultValue
    exact StopsWith.behind (result_meet _) (meet_registersNoRecord _) (ih bare)
  | record other =>
    cases bare
    unfold defaultValue
    exact StopsWith.behind (result_meet _) (meet_registersNoRecord _) (StopsWith.fail _)
  -- No other type becomes a record without its options.
  | _ => cases bare

end Ty

/-! ## Classes -/

/-- The leaves of a class, taken apart at the first of them that is a record. -/
structure ApiClass.FirstBare (cls : ApiClass) (before : List Leaf) (leaf : Leaf)
    (after : List Leaf) (name : String) : Prop where
  split : cls.leaves = before ++ leaf :: after
  front : ∀ other ∈ before, other.isBare = false
  record : leaf.field.ty.eraseOption = .record name

namespace ApiClass

variable {cls : ApiClass} {before after : List Leaf} {leaf : Leaf} {name : String}

theorem exists_firstBare (bare : cls.isBare = true) :
    ∃ before leaf after name, cls.FirstBare before leaf after name := by
  have found : (cls.leaves.find? Leaf.isBare).isSome = true :=
    List.find?_isSome.mpr (isBare_iff.mp bare)
  rcases Option.isSome_iff_exists.mp found with ⟨leaf, hleaf⟩
  rcases List.find?_eq_some_iff_append.mp hleaf with ⟨first, before, after, split, front⟩
  rcases Ty.isBare_iff.mp first with ⟨name, record⟩
  refine ⟨before, leaf, after, name, split, ?_, record⟩
  simpa using front

namespace FirstBare

variable (first : cls.FirstBare before leaf after name)

include first

theorem mem : leaf ∈ cls.leaves := by
  rw [first.split]
  exact List.mem_append_right _ List.mem_cons_self

theorem mem_of_front {other : Leaf} (hother : other ∈ before) : other ∈ cls.leaves := by
  rw [first.split]
  exact List.mem_append_left _ hother

theorem leaf_isBare : leaf.isBare = true :=
  Ty.isBare_iff.mpr ⟨name, first.record⟩

theorem isBare : cls.isBare = true :=
  isBare_iff.mpr ⟨leaf, first.mem, first.leaf_isBare⟩

/-- Nothing is asked of the types of the leaves behind the first. -/
theorem through_leaves : through Leaf.isBare cls.leaves = before ++ [leaf] := by
  rw [first.split]
  exact through_append_of_stop first.front first.leaf_isBare

end FirstBare
end ApiClass

namespace Source

open Emission

variable {s : Settings} {cls : ApiClass} {before after : List Leaf} {leaf : Leaf} {name : String}

/-- The map has an entry for every leaf that is no record. -/
theorem mapEntry_completes {other : Leaf} (scalars : other.field.ty.HasScalars)
    (plain : other.field.ty.isPlain = true) (filled : other.isBare = false) :
    (∃ entry, (mapEntry s other).result = .ok entry) ∧ (mapEntry s other).RegistersNoRecord := by
  have goes : ¬other.isBare = true := by simp [filled]
  rcases (mapEntry_judged (s := s) scalars).completes plain goes with ⟨entry, settled⟩
  have completed := result_of_settled settled
  refine ⟨⟨entry, completed⟩, ?_⟩
  apply (mapEntry_registers s other).registersNoRecord completed
  intro cls layout
  exact Ty.record_not_mem_registrations

/-- The record of a class stops at its first leaf that is a record, behind its own registration. -/
theorem RecordSource.ofClass_stopsWith (scalars : ∀ leaf ∈ cls.leaves, leaf.field.ty.HasScalars)
    (named : cls.name.isText = true) (presents : cls.PresentsRecord)
    (first : cls.FirstBare before leaf after name) (synthetic : List SyntheticMember) :
    (RecordSource.ofClass s cls synthetic).StopsWith (.recordWithoutDefault name)
      [(cls.name, layout cls.leaves synthetic)] := by
  have joined : cls.namedLeaves = .ok cls.leaves := if_pos (List.all_eq_true.mpr presents.named)
  have mapped : (cls.leaves.mapM (mapEntry s)).StopsWith (.recordWithoutDefault name) [] := by
    have entry : (mapEntry s leaf).StopsWith (.recordWithoutDefault name) [] :=
      (Ty.defaultValue_stopsWith s.overrides first.record).bind _
    rw [first.split]
    apply entry.mapM
    intro other hother
    have asked : other ∈ through Leaf.isBare cls.leaves := by
      rw [first.through_leaves]
      exact List.mem_append_left _ hother
    exact mapEntry_completes (scalars other (first.mem_of_front hother))
      (presents.types other asked) (first.front other hother)
  -- The layout is met between the names of the leaves and the entries of the map.
  unfold RecordSource.ofClass
  refine StopsWith.behind joined (RegistersNoRecord.liftM _) ?_
  refine StopsWith.behind_record ?_ _ _
  exact StopsWith.behind (Json.asText_of_isText named) (RegistersNoRecord.liftM _) (mapped.bind _)

theorem classRecord_stopsWith (scalars : ∀ ty ∈ cls.types, ty.HasScalars)
    (named : cls.name.isText = true) (presents : cls.PresentsRecord)
    (first : cls.FirstBare before leaf after name) :
    (ClassSource.classRecord s cls).StopsWith (.recordWithoutDefault name)
      [(cls.name, cls.recordLayout)] := by
  have filled : ¬cls.isEmpty = true := by
    simp [ApiClass.isEmpty_of_leaf first.mem]
  have leaves : ∀ leaf ∈ cls.leaves, leaf.field.ty.HasScalars := fun leaf hleaf =>
    scalars leaf.field.ty (ApiClass.leaf_mem_types hleaf)
  rcases (syntheticMembers_needs cls).exists_ok_iff.mpr ⟨⟨named, fun _ => presents.named⟩, id⟩
    with ⟨synthetic, settled⟩
  have others := result_of_settled settled
  have none : (syntheticMembers cls).RegistersNoRecord := by
    apply (syntheticMembers_registers cls).registersNoRecord others
    intro other layout
    split
    · exact Ty.record_not_mem_registrations
    · exact List.not_mem_nil
  have made : (RecordSource.ofClass s cls synthetic).StopsWith (.recordWithoutDefault name)
      [(cls.name, cls.recordLayout)] := by
    rw [← layout_eq_recordLayout, ← syntheticMembers_eq_ok others]
    exact RecordSource.ofClass_stopsWith leaves named presents first synthetic
  unfold ClassSource.classRecord
  rw [if_neg filled]
  exact StopsWith.behind others none (made.bind _)

/-- The source of a class that asks for nothing that is missing stops at the first leaf that is a
record, behind the registration of its layout. -/
theorem ClassSource.ofClass_stopsWith (scalars : ∀ ty ∈ cls.types, ty.HasScalars)
    (presentable : cls.Presentable) (first : cls.FirstBare before leaf after name) :
    (ClassSource.ofClass s cls).StopsWith (.recordWithoutDefault name)
      [(cls.name, cls.recordLayout)] := by
  have record := classRecord_stopsWith (s := s) scalars presentable.named presentable.record first
  rcases (classDoc_needs s cls).exists_ok_iff.mpr
    ⟨⟨presentable.description, presentable.lifecycle⟩, id⟩ with ⟨doc, settled⟩
  have documented := result_of_settled settled
  have none : (classDoc s cls).RegistersNoRecord :=
    (classDoc_registers s cls).registersNoRecord documented fun _ _ => List.not_mem_nil
  -- The methods come behind the record, so nothing is asked of them.
  unfold ClassSource.ofClass
  refine StopsWith.behind (Json.asText_of_isText presentable.named) (RegistersNoRecord.liftM _) ?_
  exact StopsWith.behind documented none (record.bind _)

/-! ## In a registry -/

/-- The source of a class fails in a registry exactly if a leaf is a record under options: with the
fault of the first such leaf, behind the registration of the layout of the class. -/
structure ClassSource.StopsAtRecords (s : Settings) (cls : ApiClass) (r : Registry) : Prop where
  fails_iff : (∃ fault, (r.settle (ClassSource.ofClass s cls)).result = .error fault) ↔
    ∃ leaf ∈ cls.leaves, ∃ name, leaf.field.ty.eraseOption = .record name
  first : ∀ fault, (r.settle (ClassSource.ofClass s cls)).result = .error fault →
    ∃ before leaf after name, cls.FirstBare before leaf after name ∧
      fault = .recordWithoutDefault name
  layout : ∀ fault name, (r.settle (ClassSource.ofClass s cls)).result = .error fault →
    cls.name = .text name →
      (r.settle (ClassSource.ofClass s cls)).registry.records.get? name = some cls.recordLayout

variable {r : Registry}

/-- What becomes of a source whose class has a leaf that is a record, and of the registry. -/
theorem ClassSource.settle_of_firstBare (scalars : ∀ ty ∈ cls.types, ty.HasScalars)
    (presentable : cls.Presentable) (opened : r.frozen = false)
    (first : cls.FirstBare before leaf after name) :
    (r.settle (ClassSource.ofClass s cls)).result = .error (.recordWithoutDefault name) ∧
      ∀ text, cls.name = .text text →
        (r.settle (ClassSource.ofClass s cls)).registry.records.get? text =
          some cls.recordLayout := by
  have stops := ofClass_stopsWith (s := s) scalars presentable first
  -- What is registered until then can be looked up, or the fault would not be one of the schema.
  rcases (ofClass_judged (s := s) scalars).stopped presentable first.isBare
    with ⟨fault, settled, reported⟩
  rcases result_of_reported settled reported with ⟨own, plain⟩
  have same : fault = .recordWithoutDefault name :=
    Except.error.inj (own.symm.trans stops.result)
  constructor
  · calc (r.settle (ClassSource.ofClass s cls)).result
        = (ClassSource.ofClass s cls).settled := (settle_of_open opened _).1
      _ = .error (.recordWithoutDefault name) := by rw [settled, same]
  · intro text named
    have there : Registration.record cls.name cls.recordLayout ∈
        (ClassSource.ofClass s cls).registered := by
      simp [stops.mem_iff]
    have only : ∀ other fields, .record other fields ∈ (ClassSource.ofClass s cls).registered →
        other = cls.name ∧ fields = cls.recordLayout := by
      intro other fields hmem
      simpa [stops.mem_iff] using hmem
    have entered := Registry.registry_settle_of_plain opened plain
    rw [entered, Registry.get?_records_enterAll there only, named]
    exact if_pos rfl

/-- A class of a schema that asks for nothing that is missing stops at its leaves that are records,
and nowhere else. -/
theorem ClassSource.stopsAtRecords_of_presentable {document : Json} {schema : Schema}
    (parsed : Schema.ofDocument document = .ok schema) (hcls : cls ∈ schema.classes)
    (presentable : cls.Presentable) (opened : r.frozen = false) :
    ClassSource.StopsAtRecords s cls r := by
  rcases Schema.known_of_ofDocument parsed with ⟨enums, known⟩
  have scalars : ∀ ty ∈ cls.types, ty.HasScalars := fun ty hty =>
    Ty.hasScalars_of_known (known cls hcls ty hty)
  have bare_iff : cls.isBare = true ↔
      ∃ leaf ∈ cls.leaves, ∃ name, leaf.field.ty.eraseOption = .record name := by
    simp only [ApiClass.isBare_iff, Leaf.isBare, Ty.isBare_iff]
  by_cases bare : cls.isBare = true
  · rcases ApiClass.exists_firstBare bare with ⟨before, leaf, after, name, first⟩
    have outcome := settle_of_firstBare (s := s) scalars presentable opened first
    refine ⟨iff_of_true ⟨_, outcome.1⟩ (bare_iff.mp bare), ?_, fun _ text _ => outcome.2 text⟩
    intro fault failed
    exact ⟨before, leaf, after, name, first, Except.error.inj (failed.symm.trans outcome.1)⟩
  · rcases (ofClass_judged (s := s) scalars).completes presentable bare with ⟨source, settled⟩
    have never : ∀ fault, (r.settle (ClassSource.ofClass s cls)).result ≠ .error fault := by
      intro fault failed
      cases settled.symm.trans ((settle_of_open opened _).1.symm.trans failed)
    refine ⟨iff_of_false ?_ fun records => bare (bare_iff.mpr records), ?_, ?_⟩
    · rintro ⟨fault, failed⟩
      exact never fault failed
    · intro fault failed
      exact absurd failed (never fault)
    · intro fault _ failed
      exact absurd failed (never fault)

end Source

/-! ## Records in many places, and a value that no registry can look up -/

/-- A class whose descriptions are texts, those of its fields, its messages and their errors too. -/
def ApiClass.IsDescribed (cls : ApiClass) : Prop :=
  cls.description.isText = true ∧
    (∀ leaf ∈ cls.leaves, leaf.field.description.isText = true) ∧
    ∀ message ∈ cls.messages, message.description.isText = true ∧
      ∀ error ∈ message.errors, error.description.isText = true

instance (cls : ApiClass) : Decidable cls.IsDescribed := by
  unfold ApiClass.IsDescribed
  infer_instance

namespace Sample

/-- A class with records in a set, in a parameter and in an answer, and with two that are fields, the
first of them in a group. -/
def keeping : Json :=
  .object [
    ("classes", .list [
      .object [
        ("name", .text "vm"),
        ("fields", .list [
          typed "peers" "set<record<vm>>",
          .object [
            ("namespace", .text "last"),
            ("fields", .list [typed "backup" "option<option<record<snapshot>>>"])],
          typed "self" "record<vm>"]),
        ("messages", .list [
          .object [
            ("name", .text "create"),
            ("params", .list [typed "args" "record<vm>"]),
            ("result", .text "record<vm>")]])]])]

/-- A class with an enumeration one of whose values is a list. -/
def oddMode : Json :=
  .object [
    ("enums", .object [("mode", .list [.list [.list [.text "a"], .text ""]])]),
    ("classes", .list [
      .object [("name", .text "vm"), ("fields", .list [typed "mode" "enum<mode>"])]])]

/-- The first class of a document, with the fault of its source. -/
def firstFault? (document : Json) : Option (Schema × ApiClass × Fault) := do
  let schema ← (Schema.ofDocument document).toOption
  let cls ← schema.classes.head?
  match (Source.ClassSource.ofClass (config.settings schema) cls).settled with
  | .ok _ => none
  | .error fault => some (schema, cls, fault)

theorem of_firstFault?_eq_some {document : Json} {schema : Schema} {cls : ApiClass} {fault : Fault}
    (h : firstFault? document = some (schema, cls, fault)) :
    Schema.ofDocument document = .ok schema ∧ cls ∈ schema.classes ∧
      (Source.ClassSource.ofClass (config.settings schema) cls).settled = .error fault := by
  rcases Option.bind_eq_some_iff.mp h with ⟨parsed, hparsed, h⟩
  rcases Option.bind_eq_some_iff.mp h with ⟨first, hfirst, h⟩
  split at h
  · cases h
  · next other settled =>
    rcases Prod.mk.inj (Option.some.inj h) with ⟨rfl, rest⟩
    rcases Prod.mk.inj rest with ⟨rfl, rfl⟩
    exact ⟨Except.eq_ok_of_toOption hparsed, List.mem_of_head? hfirst, settled⟩

set_option maxRecDepth 20000 in
theorem firstFault?_keeping :
    ((firstFault? keeping).any fun (_, _, fault) => fault = .recordWithoutDefault "snapshot") =
      true := by
  decide +kernel

set_option maxRecDepth 20000 in
theorem firstFault?_oddMode :
    ((firstFault? oddMode).any fun (_, cls, fault) =>
      fault = .notAName ∧ cls.IsDescribed ∧ cls.isBare = false) = true := by
  decide +kernel

end Sample

namespace Source

/-- A class whose source stops with a fault of the schema asks for nothing that is missing. -/
theorem ClassSource.presentable_of_reported {document : Json} {schema : Schema} {s : Settings}
    {cls : ApiClass} (parsed : Schema.ofDocument document = .ok schema)
    (hcls : cls ∈ schema.classes) {fault : Fault} (reported : fault.Reported)
    (settled : (ClassSource.ofClass s cls).settled = .error fault) : cls.Presentable := by
  rcases Schema.known_of_ofDocument parsed with ⟨enums, known⟩
  have judged := ofClass_judged (s := s) fun ty hty => Ty.hasScalars_of_known (known cls hcls ty hty)
  apply judged.failsOnly_iff.mp
  intro other failed
  cases settled.symm.trans failed
  exact reported

theorem ClassSource.stopsAtRecords_of_presentable_keeping :
    ∃ schema cls, Schema.ofDocument Sample.keeping = .ok schema ∧ cls ∈ schema.classes ∧
      cls.Presentable ∧ (Registry.empty.settle
        (ClassSource.ofClass (Sample.config.settings schema) cls)).result =
          .error (.recordWithoutDefault "snapshot") ∧
      ClassSource.StopsAtRecords (Sample.config.settings schema) cls Registry.empty := by
  rcases (Option.any_eq_true _ _).mp Sample.firstFault?_keeping
    with ⟨⟨schema, cls, fault⟩, first, facts⟩
  rcases Sample.of_firstFault?_eq_some first with ⟨parsed, hcls, settled⟩
  rw [of_decide_eq_true facts] at settled
  have presentable := presentable_of_reported parsed hcls rfl settled
  exact ⟨schema, cls, parsed, hcls, presentable, settled,
    stopsAtRecords_of_presentable parsed hcls presentable rfl⟩

/-- A class without records, all of whose descriptions are texts, fails at the values of an
enumeration. -/
theorem ClassSource.not_stopsAtRecords_of_oddMode :
    ∃ schema cls, Schema.ofDocument Sample.oddMode = .ok schema ∧ cls ∈ schema.classes ∧
      cls.IsDescribed ∧ (∀ leaf ∈ cls.leaves, leaf.isBare = false) ∧
      (Registry.empty.settle (ClassSource.ofClass (Sample.config.settings schema) cls)).result =
        .error .notAName ∧
      ¬ClassSource.StopsAtRecords (Sample.config.settings schema) cls Registry.empty := by
  rcases (Option.any_eq_true _ _).mp Sample.firstFault?_oddMode
    with ⟨⟨schema, cls, fault⟩, first, facts⟩
  rcases of_decide_eq_true facts with ⟨rfl, described, solid⟩
  rcases Sample.of_firstFault?_eq_some first with ⟨parsed, hcls, settled⟩
  have filled : ∀ leaf ∈ cls.leaves, leaf.isBare = false := by
    simpa [ApiClass.isBare] using solid
  refine ⟨schema, cls, parsed, hcls, described, filled, settled, ?_⟩
  intro stops
  rcases stops.fails_iff.mp ⟨_, settled⟩ with ⟨leaf, hleaf, name, record⟩
  have bare := ApiClass.isBare_iff.mpr ⟨leaf, hleaf, Ty.isBare_iff.mpr ⟨name, record⟩⟩
  rw [solid] at bare
  cases bare

end Source
end ClientBindings
