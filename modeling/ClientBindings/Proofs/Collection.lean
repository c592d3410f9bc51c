import ClientBindings.Proofs.Registry
import ClientBindings.Proofs.Sources
import ClientBindings.Run

/-!
# Collection — what the sources of all classes register

Writing the sources of the classes of a schema fills a registry.  One class adds what its source
registers, and nothing else that the phase does touches the registry; so a phase that completes
leaves the registry that all registrations lead to, class by class.

* `Run.Completes` — a step of a run that completes, with its value and the progress after it;
* `Run.registry_of_classFile`, `Run.registry_of_classes` — one class, and all of them;
* `Schema.rootTypes`, `Schema.Uses` — the types that a schema mentions, and their parts;
* `type_mem_registrations_iff`, `get?_records_of_classes` — the types and the layouts of all classes;
* `Run.Collected` — what the registry holds after the phase.
-/

namespace ClientBindings

namespace Run

variable {α β : Type}

/-- From progress `p`, a step completes with the value `a` and leads to progress `q`. -/
def Completes (m : Run α) (p : Progress) (a : α) (q : Progress) : Prop :=
  (m.run.run p).run = (.ok a, q)

theorem run_bind (m : Run α) (f : α → Run β) (p : Progress) :
    ((m >>= f).run.run p).run =
      match (m.run.run p).run with
      | (.ok a, p') => ((f a).run.run p').run
      | (.error fault, p') => (.error fault, p') := by
  simp only [ExceptT.run_bind, StateT.run_bind]
  rcases m.run.run p with ⟨result, p'⟩
  cases result <;> rfl

theorem completes_bind {m : Run α} {f : α → Run β} {p q : Progress} {b : β} :
    (m >>= f).Completes p b q ↔ ∃ a p', m.Completes p a p' ∧ (f a).Completes p' b q := by
  unfold Completes
  rw [run_bind]
  rcases (m.run.run p).run with ⟨result, p'⟩
  cases result with
  | error fault => simp
  | ok a => simp

theorem completes_pure {a b : α} {p q : Progress} :
    (pure a : Run α).Completes p b q ↔ a = b ∧ p = q := by
  simp [Completes]

/-! ## One class -/

theorem emit_completes {m : Emission α} {p q : Progress} {a : α} (h : (emit m).Completes p a q) :
    m.result = .ok a ∧ q.registry = p.registry.enterAll m.registered := by
  have outcome : (p.registry.settle m).result = .ok a := congrArg Prod.fst h
  have after : q.registry = (p.registry.settle m).registry :=
    (congrArg (fun outcome => outcome.2.registry) h).symm
  rcases Registry.settle_eq_ok outcome with ⟨result, entered⟩
  exact ⟨result, after.trans entered⟩

theorem report_completes {level : Level} {part text : String} {p q : Progress} {u : Unit}
    (h : (report level part text).Completes p u q) : q.registry = p.registry :=
  (congrArg (fun outcome => outcome.2.registry) h).symm

theorem ofDisk_completes {result : Except DiskFault α} {p q : Progress} {a : α}
    (h : (ofDisk result).Completes p a q) : q = p :=
  (congrArg Prod.snd h).symm

theorem writeFile_completes {folder path : Path} {name text : String} {p q : Progress}
    (h : (writeFile folder name text).Completes p path q) : q.registry = p.registry := by
  rcases completes_bind.mp h with ⟨here, p₁, hget, h⟩
  rcases completes_bind.mp h with ⟨disk, p₂, hdisk, h⟩
  rcases completes_bind.mp h with ⟨u, p₃, hmodify, hreturn⟩
  have same₁ : p₁ = p := (congrArg Prod.snd hget).symm
  have same₂ : p₂ = p₁ := ofDisk_completes hdisk
  have same₃ : p₃.registry = p₂.registry :=
    (congrArg (fun outcome => outcome.2.registry) hmodify).symm
  have same₄ : p₃ = q := (completes_pure.mp hreturn).2
  rw [← same₄, same₃, same₂, same₁]

/-- Writing the source of a class enters what the source registers. -/
theorem registry_of_classFile {c : Config} {s : Settings} {cls : ApiClass} {p q : Progress}
    {u : Unit} (h : (classFile c s cls).Completes p u q) :
    ∃ source, (Source.ClassSource.ofClass s cls).result = .ok source ∧
      q.registry = p.registry.enterAll (Source.ClassSource.ofClass s cls).registered := by
  rcases completes_bind.mp h with ⟨source, p₁, hemit, h⟩
  rcases completes_bind.mp h with ⟨path, p₂, hwrite, hreport⟩
  rcases emit_completes hemit with ⟨hsource, entered⟩
  refine ⟨source, hsource, ?_⟩
  rw [report_completes hreport, writeFile_completes hwrite, entered]

/-! ## All classes -/

/-- What the sources of classes register, class by class. -/
def classRegistrations (s : Settings) (classes : List ApiClass) : List Registration :=
  classes.flatMap fun cls => (Source.ClassSource.ofClass s cls).registered

theorem registry_of_forM {c : Config} {s : Settings} {classes : List ApiClass} {p q : Progress}
    {u : PUnit} (h : (classes.forM (classFile c s)).Completes p u q) :
    (∀ cls ∈ classes, ∃ source, (Source.ClassSource.ofClass s cls).result = .ok source) ∧
      q.registry = p.registry.enterAll (classRegistrations s classes) := by
  induction classes generalizing p with
  | nil =>
    refine ⟨by simp, ?_⟩
    rw [← (completes_pure.mp h).2]
    rfl
  | cons cls rest ih =>
    rcases completes_bind.mp h with ⟨v, p₁, hfile, hrest⟩
    rcases registry_of_classFile hfile with ⟨source, hsource, entered⟩
    rcases ih hrest with ⟨others, later⟩
    -- The other sources are entered into the registry that the first one leaves.
    constructor
    · intro other hother
      rcases List.mem_cons.mp hother with rfl | hother
      · exact ⟨source, hsource⟩
      · exact others other hother
    · rw [later, entered, ← Registry.enterAll_append]
      rfl

/-- If the sources of all classes are written, the source of every class completes, and the registry
is what they register, with the kinds of objects in front. -/
theorem registry_of_classes {c : Config} {schema : Schema} {p q : Progress} {u : Unit}
    (h : (classes c schema).Completes p u q) :
    (∀ cls ∈ schema.classes,
        ∃ source, (Source.ClassSource.ofClass (c.settings schema) cls).result = .ok source) ∧
      q.registry = p.registry.enterAll ((objectKinds schema.classes).registrations ++
        classRegistrations (c.settings schema) schema.classes) := by
  rcases completes_bind.mp h with ⟨name, p₁, hkinds, h⟩
  rcases completes_bind.mp h with ⟨v, p₂, hfiles, hreport⟩
  rcases emit_completes hkinds with ⟨hname, entered⟩
  rcases registry_of_forM hfiles with ⟨sources, later⟩
  refine ⟨sources, ?_⟩
  rw [report_completes hreport, later, entered, Ty.registered_javaType hname,
    Registry.enterAll_append]

end Run

/-! ## What a schema mentions -/

namespace Schema

/-- The types that a schema mentions: its kinds of objects, and the types of its classes. -/
def rootTypes (schema : Schema) : List Ty :=
  objectKinds schema.classes :: schema.classes.flatMap ApiClass.types

/-- The types of a schema with their parts. -/
def Uses (schema : Schema) (ty : Ty) : Prop :=
  ∃ root ∈ schema.rootTypes, ty ∈ root.parts

theorem uses_part {schema : Schema} {s t : Ty} (ht : schema.Uses t) (hs : s ∈ t.parts) :
    schema.Uses s := by
  rcases ht with ⟨root, hroot, ht⟩
  exact ⟨root, hroot, Ty.mem_parts_trans hs ht⟩

theorem uses_of_mem_types {schema : Schema} {cls : ApiClass} (hcls : cls ∈ schema.classes)
    {ty : Ty} (hty : ty ∈ cls.types) : schema.Uses ty :=
  ⟨ty, List.mem_cons_of_mem _ (List.mem_flatMap.mpr ⟨cls, hcls, hty⟩), ty.self_mem_parts⟩

theorem uses_objectKinds (schema : Schema) : schema.Uses (objectKinds schema.classes) :=
  ⟨_, List.mem_cons_self, Ty.self_mem_parts _⟩

end Schema

/-- The last class of a name that has a record. -/
def recordClass? (classes : List ApiClass) (name : String) : Option ApiClass :=
  classes.reverse.find? fun cls => !cls.isEmpty && cls.name = .text name

theorem recordClass?_cons (cls : ApiClass) (rest : List ApiClass) (name : String) :
    recordClass? (cls :: rest) name =
      (recordClass? rest name).or
        (if !cls.isEmpty && cls.name = .text name then some cls else none) := by
  unfold recordClass?
  rw [List.reverse_cons, List.find?_append]
  congr 1
  cases hmatch : !cls.isEmpty && decide (cls.name = .text name) <;> simp [hmatch]

theorem recordClass?_eq_some {classes : List ApiClass} {name : String} {cls : ApiClass}
    (h : recordClass? classes name = some cls) :
    cls ∈ classes ∧ cls.isEmpty = false ∧ cls.name = .text name := by
  have found := List.find?_some h
  have there := List.mem_reverse.mp (List.mem_of_find?_eq_some h)
  simp only [Bool.and_eq_true, Bool.not_eq_true', decide_eq_true_eq] at found
  exact ⟨there, found.1, found.2⟩

namespace Run

/-! ## Registrations of all classes -/

section Registrations

variable {s : Settings} {classes : List ApiClass}

theorem mem_classRegistrations
    (sources : ∀ cls ∈ classes, ∃ source, (Source.ClassSource.ofClass s cls).result = .ok source)
    (r : Registration) :
    r ∈ classRegistrations s classes ↔
      ∃ cls ∈ classes, r ∈ cls.recordRegistrations ∨ r ∈ registrationsOfTypes cls.types := by
  unfold classRegistrations
  rw [List.mem_flatMap]
  constructor
  · rintro ⟨cls, hcls, hr⟩
    rcases sources cls hcls with ⟨source, hsource⟩
    exact ⟨cls, hcls, List.mem_append.mp ((Source.ofClass_registers s cls source hsource r).mp hr)⟩
  · rintro ⟨cls, hcls, hr⟩
    rcases sources cls hcls with ⟨source, hsource⟩
    exact ⟨cls, hcls, (Source.ofClass_registers s cls source hsource r).mpr (List.mem_append.mpr hr)⟩

theorem mem_recordRegistrations {cls : ApiClass} {r : Registration} :
    r ∈ cls.recordRegistrations ↔ cls.isEmpty = false ∧ r = .record cls.name cls.recordLayout := by
  unfold ApiClass.recordRegistrations
  cases cls.isEmpty <;> simp

theorem record_not_mem_registrationsOfTypes {cls : Json} {layout : List (String × Ty)}
    {types : List Ty} : .record cls layout ∉ registrationsOfTypes types := by
  simp [registrationsOfTypes, Ty.record_not_mem_registrations]

/-- The types that are registered for a schema are the ones that it uses. -/
theorem type_mem_registrations_iff {schema : Schema}
    (sources : ∀ cls ∈ schema.classes,
      ∃ source, (Source.ClassSource.ofClass s cls).result = .ok source) (ty : Ty) :
    .type ty ∈ (objectKinds schema.classes).registrations ++ classRegistrations s schema.classes ↔
      schema.Uses ty := by
  rw [List.mem_append, mem_classRegistrations sources, Ty.type_mem_registrations]
  simp only [mem_recordRegistrations, registrationsOfTypes, List.mem_flatMap,
    Ty.type_mem_registrations, reduceCtorEq, and_false, false_or]
  unfold Schema.Uses Schema.rootTypes
  simp only [List.mem_cons, List.mem_flatMap]
  constructor
  · rintro (h | ⟨cls, hcls, root, hroot, h⟩)
    · exact ⟨_, Or.inl rfl, h⟩
    · exact ⟨root, Or.inr ⟨cls, hcls, hroot⟩, h⟩
  · rintro ⟨root, rfl | ⟨cls, hcls, hroot⟩, h⟩
    · exact Or.inl h
    · exact Or.inr ⟨cls, hcls, root, hroot, h⟩

theorem enum_mem_registrations_iff {schema : Schema}
    (sources : ∀ cls ∈ schema.classes,
      ∃ source, (Source.ClassSource.ofClass s cls).result = .ok source) (name : String)
    (values : List EnumValue) :
    .enum name values ∈
        (objectKinds schema.classes).registrations ++ classRegistrations s schema.classes ↔
      schema.Uses (.enum name values) := by
  rw [← type_mem_registrations_iff sources, List.mem_append, List.mem_append,
    mem_classRegistrations sources, mem_classRegistrations sources]
  simp only [mem_recordRegistrations, registrationsOfTypes, List.mem_flatMap,
    Ty.type_mem_registrations, Ty.enum_mem_registrations, reduceCtorEq, and_false, false_or]

/-- One class changes the layout of its own record only. -/
theorem get?_records_of_class {cls : ApiClass} {source : Source.ClassSource}
    (hsource : (Source.ClassSource.ofClass s cls).result = .ok source) (r : Registry)
    (name : String) :
    (r.enterAll (Source.ClassSource.ofClass s cls).registered).records.get? name =
      if !cls.isEmpty && cls.name = .text name then some cls.recordLayout
      else r.records.get? name := by
  have registers := Source.ofClass_registers s cls source hsource
  have onlyOwn : ∀ other fields,
      Registration.record other fields ∈ (Source.ClassSource.ofClass s cls).registered →
        cls.isEmpty = false ∧ other = cls.name ∧ fields = cls.recordLayout := by
    intro other fields hmem
    -- Types register no records.
    rcases List.mem_append.mp ((registers _).mp hmem) with hmem | hmem
    · rcases mem_recordRegistrations.mp hmem with ⟨filled, same⟩
      injection same with sameName sameLayout
      exact ⟨filled, sameName, sameLayout⟩
    · exact absurd hmem record_not_mem_registrationsOfTypes
  cases hempty : cls.isEmpty with
  | true =>
    rw [Registry.records_enterAll_of_none]
    · simp
    · intro other fields hmem
      have filled := (onlyOwn other fields hmem).1
      rw [hempty] at filled
      exact Bool.noConfusion filled
  | false =>
    have there : Registration.record cls.name cls.recordLayout ∈
        (Source.ClassSource.ofClass s cls).registered := by
      refine (registers _).mpr (List.mem_append_left _ ?_)
      exact mem_recordRegistrations.mpr ⟨hempty, rfl⟩
    rw [Registry.get?_records_enterAll there fun other fields hmem => (onlyOwn other fields hmem).2]
    -- The name of the class is a text, so it is its own name in the table.
    have named := (Source.texts_of_ofClass hsource).1
    cases hname : cls.name with
    | text own => by_cases same : name = own <;> simp [Json.memberText, same, Ne.symm]
    | _ => simp [hname, Json.isText] at named

/-- The layout of a name is that of the last class of the name that has a record. -/
theorem get?_records_of_classes
    (sources : ∀ cls ∈ classes, ∃ source, (Source.ClassSource.ofClass s cls).result = .ok source)
    (r : Registry) (name : String) :
    (r.enterAll (classRegistrations s classes)).records.get? name =
      ((recordClass? classes name).map ApiClass.recordLayout).or (r.records.get? name) := by
  induction classes generalizing r with
  | nil => rfl
  | cons cls rest ih =>
    rcases sources cls List.mem_cons_self with ⟨source, hsource⟩
    have tail := ih (fun other hother => sources other (List.mem_cons_of_mem _ hother))
      (r.enterAll (Source.ClassSource.ofClass s cls).registered)
    have split : classRegistrations s (cls :: rest) =
        (Source.ClassSource.ofClass s cls).registered ++ classRegistrations s rest := rfl
    rw [split, Registry.enterAll_append, tail, get?_records_of_class hsource, recordClass?_cons]
    -- A later class of the name takes the place of this one.
    cases recordClass? rest name with
    | some later => rfl
    | none => cases !cls.isEmpty && decide (cls.name = .text name) <;> rfl

end Registrations

/-! ## The registry after the phase -/

/-- What a registry holds once the sources of all classes of a schema are written.  Types are told
apart as a registry tells them apart. -/
structure Collected (schema : Schema) (r : Registry) : Prop where
  apart : r.Apart
  uses_of_mem : ∀ ty ∈ r.types, schema.Uses ty
  exists_same : ∀ ty, schema.Uses ty → ∃ other ∈ r.types, ty.sameType other = true
  enumNames : ∀ name, name ∈ r.enums.names ↔ ∃ values, schema.Uses (.enum name values)
  nodupEnums : r.enums.names.Nodup
  records : ∀ name,
    r.records.get? name = (recordClass? schema.classes name).map ApiClass.recordLayout
  nodupRecords : r.records.names.Nodup

theorem collected_of_classes {c : Config} {schema : Schema} {disk : Disk} {p : Progress} {u : Unit}
    (h : (classes c schema).Completes (Progress.start disk) u p) :
    Collected schema p.registry := by
  rcases registry_of_classes h with ⟨sources, entered⟩
  have fresh : (Progress.start disk).registry = Registry.empty := rfl
  rw [fresh] at entered
  -- The kinds of objects are entered in front of all classes, and bring no layout.
  have kindsFirst : ∀ name, (Registry.empty.enterAll
      (objectKinds schema.classes).registrations).records.get? name = none := by
    intro name
    rw [Registry.records_enterAll_of_none fun _ _ => Ty.record_not_mem_registrations]
    rfl
  rw [entered]
  refine ⟨Registry.apart_enterAll (r := Registry.empty) List.Pairwise.nil _, ?_, ?_, ?_,
    Registry.nodup_enum_names_enterAll (r := Registry.empty) List.nodup_nil _, ?_,
    Registry.nodup_record_names_enterAll (r := Registry.empty) List.nodup_nil _⟩
  · intro ty hty
    rcases Registry.mem_types_enterAll hty with hty | hty
    · simp [Registry.empty] at hty
    · exact (type_mem_registrations_iff sources ty).mp hty
  · intro ty hty
    exact Registry.exists_same_of_enterAll ((type_mem_registrations_iff sources ty).mpr hty)
  · intro name
    rw [Registry.mem_enum_names_enterAll]
    simp [Registry.empty, Table.names, enum_mem_registrations_iff sources]
  · intro name
    rw [Registry.enterAll_append, get?_records_of_classes sources, kindsFirst, Option.or_none]

end Run
end ClientBindings
