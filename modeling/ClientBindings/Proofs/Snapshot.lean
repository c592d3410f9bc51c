import ClientBindings.Proofs.Collection
import ClientBindings.Proofs.Spelling

/-!
# Snapshot — what a run knows when its class sources are written

The registry tells types apart by what stands for them, so that `1` and `true` are one value of an
enumeration.  Over a parsed document that is equality: the values of an enumeration are those that
the document declares for its name, and the kinds of objects are texts.  The snapshot therefore
lists the types that the sources mention, with their parts, each once.

* `Schema.Mentions` — the types that the sources of a schema mention;
* `Run.mem_types_of_classes`, `Run.nodup_types_of_classes` — the types of the snapshot;
* `Snapshot.Closed` — a snapshot knows the parts of what it knows;
* `Snapshot.Exact` — a snapshot holds what a schema uses and nothing else;
* `Run.exact_of_classes` — so does the snapshot of a run.
-/

namespace ClientBindings

/-! ## Types that are told apart -/

namespace Json

theorem eq_of_canonical_eq_text {j : Json} {s : String} (h : j.canonical = .text s) :
    j = .text s := by
  unfold canonical at h
  split at h
  · simp at h
  · exact h

theorem eq_text_of_isText {j : Json} (h : j.isText = true) : ∃ s, j = .text s := by
  cases j with
  | text s => exact ⟨s, rfl⟩
  | _ => simp [isText] at h

theorem asText_of_isText {j : Json} (h : j.isText = true) : j.asText = .ok j.display := by
  rcases eq_text_of_isText h with ⟨s, rfl⟩
  rfl

theorem isScalar_of_isText {j : Json} (h : j.isText = true) : j.isScalar = true := by
  obtain ⟨s, rfl⟩ := eq_text_of_isText h
  rfl

end Json

namespace EnumValue

/-- A value whose wire value and description are texts. -/
def IsText (v : EnumValue) : Prop :=
  v.wire.isText = true ∧ v.description.isText = true

theorem eq_of_canonical_eq {v w : EnumValue} (hw : w.IsText) (h : v.canonical = w.canonical) :
    v = w := by
  rcases v with ⟨wire, description⟩
  rcases w with ⟨wire', description'⟩
  rcases Json.eq_text_of_isText hw.1 with ⟨s, hs⟩
  rcases Json.eq_text_of_isText hw.2 with ⟨t, ht⟩
  dsimp only at hs ht
  subst hs ht
  injection h with hwire hdescription
  have sameWire := Json.eq_of_canonical_eq_text hwire
  have sameDescription := Json.eq_of_canonical_eq_text hdescription
  simp only at sameWire sameDescription
  rw [sameWire, sameDescription]

theorem eq_of_map_canonical_eq {vs ws : List EnumValue} (hws : ∀ w ∈ ws, w.IsText)
    (h : vs.map canonical = ws.map canonical) : vs = ws := by
  induction ws generalizing vs with
  | nil => simpa using h
  | cons w rest ih =>
    cases vs with
    | nil => simp at h
    | cons v others =>
      simp only [List.map_cons, List.cons.injEq] at h
      have head := eq_of_canonical_eq (hws w List.mem_cons_self) h.1
      have tail := ih (fun u hu => hws u (List.mem_cons_of_mem _ hu)) h.2
      rw [head, tail]

end EnumValue

theorem eq_objectKinds_of_canonical_eq {classes : List ApiClass} {ty : Ty}
    (texts : ∀ cls ∈ classes, cls.name.isText = true ∧ cls.description.isText = true)
    (h : ty.canonical = (objectKinds classes).canonical) : ty = objectKinds classes := by
  cases ty with
  | enum name values =>
    unfold objectKinds at h ⊢
    rcases Ty.enum.inj h with ⟨hname, hvalues⟩
    have same := EnumValue.eq_of_map_canonical_eq (fun w hw => ?_) hvalues
    · rw [hname, same]
    · rcases List.mem_map.mp hw with ⟨cls, hcls, rfl⟩
      exact texts cls (List.mem_filter.mp hcls).1
  | _ => simp [objectKinds, Ty.canonical] at h

theorem Schema.eq_objectKinds_or_known_of_uses {schema : Schema} {enums : Table (List EnumValue)}
    (known : ∀ cls ∈ schema.classes, ∀ ty ∈ cls.types, ty.Known enums) {ty : Ty}
    (used : schema.Uses ty) : ty = objectKinds schema.classes ∨ ty.Known enums := by
  rcases used with ⟨root, hroot, hty⟩
  rcases List.mem_cons.mp hroot with rfl | hroot
  · exact Or.inl (List.mem_singleton.mp hty)
  · rcases List.mem_flatMap.mp hroot with ⟨cls, hcls, hmem⟩
    exact Or.inr (Ty.known_of_part (known cls hcls root hmem) hty)

/-- The types that a schema uses are told apart by equality if its classes mention known types. -/
theorem Schema.eq_of_sameType {schema : Schema} {enums : Table (List EnumValue)}
    (known : ∀ cls ∈ schema.classes, ∀ ty ∈ cls.types, ty.Known enums)
    (texts : ∀ cls ∈ schema.classes, cls.name.isText = true ∧ cls.description.isText = true)
    {s t : Ty} (hs : schema.Uses s) (ht : schema.Uses t) (h : s.sameType t = true) : s = t := by
  have same : s.canonical = t.canonical := of_decide_eq_true h
  -- A document may declare the kinds of objects itself, so the two sorts of types can meet.
  rcases eq_objectKinds_or_known_of_uses known hs with rfl | knownS
  · exact (eq_objectKinds_of_canonical_eq texts same.symm).symm
  · rcases eq_objectKinds_or_known_of_uses known ht with rfl | knownT
    · exact eq_objectKinds_of_canonical_eq texts same
    · exact Ty.eq_of_canonical_eq knownS knownT same

/-! ## The types of a run -/

namespace Run

variable {c : Config} {document : Json} {schema : Schema} {disk : Disk} {p : Progress} {u : Unit}

theorem eq_of_sameType (parsed : Schema.ofDocument document = .ok schema)
    (completed : (classes c schema).Completes (Progress.start disk) u p) {s t : Ty}
    (hs : schema.Uses s) (ht : schema.Uses t) (h : s.sameType t = true) : s = t := by
  rcases Schema.known_of_ofDocument parsed with ⟨enums, known⟩
  refine Schema.eq_of_sameType known ?_ hs ht h
  intro cls hcls
  rcases (registry_of_classes completed).1 cls hcls with ⟨source, hsource⟩
  exact Source.texts_of_ofClass hsource

/-- The types of the snapshot are those that the schema uses. -/
theorem mem_types_of_classes (parsed : Schema.ofDocument document = .ok schema)
    (completed : (classes c schema).Completes (Progress.start disk) u p) (ty : Ty) :
    ty ∈ p.registry.freeze.2.types ↔ schema.Uses ty := by
  have collected := collected_of_classes completed
  constructor
  · exact collected.uses_of_mem ty
  · intro used
    -- The registry has a type that counts as this one, which over a document is this one.
    rcases collected.exists_same ty used with ⟨other, hother, same⟩
    have equal := eq_of_sameType parsed completed used (collected.uses_of_mem other hother) same
    exact equal ▸ hother

theorem nodup_types_of_classes
    (completed : (classes c schema).Completes (Progress.start disk) u p) :
    p.registry.freeze.2.types.Nodup := by
  have apart := (collected_of_classes completed).apart
  refine List.Pairwise.imp ?_ apart
  intro s t different equal
  refine different ?_
  rw [equal, Ty.sameType]
  exact decide_eq_true rfl

end Run

/-! ## Closed snapshots -/

/-- A snapshot that knows whatever its types and its records are made of, and the kinds of
objects. -/
structure Snapshot.Closed (snapshot : Snapshot) : Prop where
  part_mem : ∀ ty ∈ snapshot.types, ∀ part ∈ ty.parts, part ∈ snapshot.types
  layout_mem : ∀ name layout, snapshot.records.get? name = some layout →
    ∀ member ∈ layout, member.2 ∈ snapshot.types
  kinds_mem : ∃ values, Ty.enum objectKindsName values ∈ snapshot.types

theorem Run.closed_of_classes {c : Config} {document : Json} {schema : Schema} {disk : Disk}
    {p : Progress} {u : Unit} (parsed : Schema.ofDocument document = .ok schema)
    (completed : (classes c schema).Completes (Progress.start disk) u p) :
    p.registry.freeze.2.Closed := by
  have mem_types := mem_types_of_classes parsed completed
  refine ⟨?_, ?_, ?_⟩
  · intro ty hty part hpart
    rw [mem_types] at hty ⊢
    exact Schema.uses_part hty hpart
  · -- A layout is that of some class of the schema, which mentions the types in it.
    intro name layout hlayout member hmember
    have found := (collected_of_classes completed).records name
    rw [show p.registry.records = p.registry.freeze.2.records from rfl, hlayout] at found
    rcases Option.map_eq_some_iff.mp found.symm with ⟨cls, hcls, rfl⟩
    rcases recordClass?_eq_some hcls with ⟨there, filled, _⟩
    refine (mem_types _).mpr (Schema.uses_of_mem_types there (List.mem_append_left _ ?_))
    unfold ApiClass.recordTypes
    rw [filled]
    exact List.mem_map_of_mem hmember
  · exact ⟨_, (mem_types _).mpr (Schema.uses_objectKinds schema)⟩

/-! ## Exact snapshots -/

/-- The types that the sources of a schema mention. -/
inductive Schema.Mentions (schema : Schema) : Ty → Prop where
  | kinds : schema.Mentions (objectKinds schema.classes)
  | leaf {cls : ApiClass} {leaf : Leaf} : cls ∈ schema.classes → cls.isEmpty = false →
      leaf ∈ cls.leaves → schema.Mentions leaf.field.ty
  | param {cls : ApiClass} {message : Message} {param : Param} : cls ∈ schema.classes →
      message ∈ cls.messages → param ∈ message.params → schema.Mentions param.ty
  | answer {cls : ApiClass} {message : Message} {answer : Answer} : cls ∈ schema.classes →
      message ∈ cls.messages → message.answer = some answer → schema.Mentions answer.ty
  /-- The kind of the object that an event is about, where the schema does not declare it. -/
  | eventKind {cls : ApiClass} : cls ∈ schema.classes → cls.isEmpty = false → cls.isEvent = true →
      (∀ leaf ∈ cls.leaves, leaf.path ≠ Source.eventKindField) → schema.Mentions (.scalar .string)

theorem ApiClass.lacksKind_iff {cls : ApiClass} :
    cls.lacksKind = true ↔
      cls.isEvent = true ∧ ∀ leaf ∈ cls.leaves, leaf.path ≠ Source.eventKindField := by
  simp [lacksKind]

theorem Message.mem_types {m : Message} {ty : Ty} :
    ty ∈ m.types ↔ (∃ answer, m.answer = some answer ∧ answer.ty = ty) ∨
      ∃ param ∈ m.params, param.ty = ty := by
  simp [types]

theorem Schema.mem_rootTypes {schema : Schema} {ty : Ty} :
    ty ∈ schema.rootTypes ↔ schema.Mentions ty := by
  unfold rootTypes ApiClass.types
  simp only [List.mem_cons, List.mem_flatMap, List.mem_append, ApiClass.mem_recordTypes,
    Message.mem_types, ApiClass.lacksKind_iff]
  constructor
  · rintro (rfl | ⟨cls, hcls, ⟨filled, hleaf | hkind⟩ | ⟨m, hm, hanswer | hparam⟩⟩)
    · exact .kinds
    · rcases hleaf with ⟨leaf, hleaf, rfl⟩
      exact .leaf hcls filled hleaf
    · rcases hkind with ⟨⟨event, undeclared⟩, rfl⟩
      exact .eventKind hcls filled event undeclared
    · rcases hanswer with ⟨answer, hanswer, rfl⟩
      exact .answer hcls hm hanswer
    · rcases hparam with ⟨param, hparam, rfl⟩
      exact .param hcls hm hparam
  · intro h
    cases h with
    | kinds => exact Or.inl rfl
    | leaf hcls filled hleaf => exact Or.inr ⟨_, hcls, Or.inl ⟨filled, Or.inl ⟨_, hleaf, rfl⟩⟩⟩
    | eventKind hcls filled event undeclared =>
      exact Or.inr ⟨_, hcls, Or.inl ⟨filled, Or.inr ⟨⟨event, undeclared⟩, rfl⟩⟩⟩
    | answer hcls hm hanswer =>
      exact Or.inr ⟨_, hcls, Or.inr ⟨_, hm, Or.inl ⟨_, hanswer, rfl⟩⟩⟩
    | param hcls hm hparam =>
      exact Or.inr ⟨_, hcls, Or.inr ⟨_, hm, Or.inr ⟨_, hparam, rfl⟩⟩⟩

theorem recordClass?_isSome_iff {classes : List ApiClass} {name : String} :
    (recordClass? classes name).isSome = true ↔
      ∃ cls ∈ classes, cls.isEmpty = false ∧ cls.name = .text name := by
  simp [recordClass?, List.find?_isSome]

/-- A snapshot holds what the sources of a schema use, and nothing else.  Types, enumerations and
records are each listed once. -/
structure Snapshot.Exact (schema : Schema) (snapshot : Snapshot) : Prop where
  nodup : snapshot.types.Nodup
  /-- Not even types that differ in the spelling of a value stand next to each other. -/
  apart : snapshot.types.Pairwise fun s t => ¬s.sameType t
  mem_types : ∀ ty, ty ∈ snapshot.types ↔ ∃ root, schema.Mentions root ∧ ty ∈ root.parts
  nodup_enums : snapshot.enums.names.Nodup
  mem_enums : ∀ name,
    name ∈ snapshot.enums.names ↔ ∃ values, Ty.enum name values ∈ snapshot.types
  nodup_records : snapshot.records.names.Nodup
  mem_records : ∀ name, name ∈ snapshot.records.names ↔
    ∃ cls ∈ schema.classes, cls.isEmpty = false ∧ cls.name = .text name
  /-- The last class of a name counts. -/
  layout : ∀ name cls, recordClass? schema.classes name = some cls →
    snapshot.records.get? name = some cls.recordLayout

namespace Run

/-- Writing the sources of the classes registers what they use, and nothing else. -/
theorem exact_of_classes {c : Config} {document : Json} {schema : Schema} {disk : Disk}
    {p : Progress} (parsed : Schema.ofDocument document = .ok schema)
    (completed : (classes c schema).Completes (Progress.start disk) () p) :
    p.registry.freeze.2.Exact schema := by
  have collected := collected_of_classes completed
  have mem_types := mem_types_of_classes parsed completed
  refine ⟨nodup_types_of_classes completed, collected.apart, ?_, collected.nodupEnums, ?_,
    collected.nodupRecords, ?_, ?_⟩
  · intro ty
    rw [mem_types, Schema.Uses]
    simp only [Schema.mem_rootTypes]
  · intro name
    rw [show p.registry.freeze.2.enums = p.registry.enums from rfl, collected.enumNames]
    simp only [mem_types]
  · intro name
    rw [← Table.get?_isSome_iff, show p.registry.freeze.2.records = p.registry.records from rfl,
      collected.records, Option.isSome_map, recordClass?_isSome_iff]
  · intro name cls hcls
    have found := collected.records name
    rw [hcls] at found
    exact found

/-- The schema of a document, and the progress of a run once its class sources are written. -/
def collect? (c : Config) (disk : Disk) (document : Json) : Option (Schema × Progress) :=
  match Schema.ofDocument document with
  | .error _ => none
  | .ok schema =>
    match ((classes c schema).run.run (Progress.start disk)).run with
    | (.ok _, p) => some (schema, p)
    | (.error _, _) => none

theorem of_collect?_eq_some {c : Config} {disk : Disk} {document : Json} {schema : Schema}
    {p : Progress} (h : collect? c disk document = some (schema, p)) :
    Schema.ofDocument document = .ok schema ∧
      (classes c schema).Completes (Progress.start disk) () p := by
  unfold collect? at h
  split at h
  · simp at h
  · next parsed =>
    split at h
    · next completed =>
      rcases Prod.mk.inj (Option.some.inj h) with ⟨rfl, rfl⟩
      exact ⟨parsed, completed⟩
    · simp at h

end Run

/-! ## A small document -/

namespace Sample

/-- A field or a parameter with its type. -/
def typed (name type : String) : Json :=
  .object [("name", .text name), ("type", .text type)]

/-- Two classes, one of which is that of events and leaves the kind of its objects undeclared. -/
def events : Json :=
  .object [
    ("enums", .object [("power_state", .list [.text "halted", .text "running"])]),
    ("classes", .list [
      .object [
        ("name", .text "vm"),
        ("fields", .list [typed "state" "enum<power_state>", typed "tags" "map<string, set<int>>"])],
      .object [
        ("name", .text "event"),
        ("fields", .list [typed "time" "option<datetime>"]),
        ("messages", .list [
          .object [
            ("name", .text "next"),
            ("params", .list [typed "vm" "ref<vm>"]),
            ("result", .text "record<event>")]])]])]

def folder : Path :=
  Path.ofText "out"

def config : Config :=
  ⟨folder, "p", "", [], none, none, Disk.empty⟩

/-- A disk with the folder that class sources are written to. -/
def disk : Disk :=
  ⟨[folder, config.classDir], []⟩

/-- The first class of a document with its source. -/
def firstSource? (document : Json) : Option (Schema × ApiClass × Source.ClassSource) := do
  let schema ← (Schema.ofDocument document).toOption
  let cls ← schema.classes.head?
  let source ← (Source.ClassSource.ofClass (config.settings schema) cls).result.toOption
  return (schema, cls, source)

theorem of_firstSource?_eq_some {document : Json} {schema : Schema} {cls : ApiClass}
    {source : Source.ClassSource} (h : firstSource? document = some (schema, cls, source)) :
    Schema.ofDocument document = .ok schema ∧ cls ∈ schema.classes ∧
      (Source.ClassSource.ofClass (config.settings schema) cls).result = .ok source := by
  rcases Option.bind_eq_some_iff.mp h with ⟨parsed, hparsed, h⟩
  rcases Option.bind_eq_some_iff.mp h with ⟨first, hfirst, h⟩
  rcases Option.bind_eq_some_iff.mp h with ⟨made, hmade, h⟩
  rcases Prod.mk.inj (Option.some.inj h) with ⟨rfl, rest⟩
  rcases Prod.mk.inj rest with ⟨rfl, rfl⟩
  exact ⟨Except.eq_ok_of_toOption hparsed, List.mem_of_head? hfirst,
    Except.eq_ok_of_toOption hmade⟩

set_option maxRecDepth 20000 in
theorem collect?_events : (Run.collect? config disk events).isSome = true := by
  decide +kernel

end Sample

namespace Run

theorem exact_of_classes_events :
    ∃ schema p, Schema.ofDocument Sample.events = .ok schema ∧
      (classes Sample.config schema).Completes (Progress.start Sample.disk) () p ∧
      p.registry.freeze.2.Exact schema := by
  rcases Option.isSome_iff_exists.mp Sample.collect?_events with ⟨⟨schema, p⟩, collected⟩
  rcases of_collect?_eq_some collected with ⟨parsed, completed⟩
  exact ⟨schema, p, parsed, completed, exact_of_classes parsed completed⟩

end Run
end ClientBindings
