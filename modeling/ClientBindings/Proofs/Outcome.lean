import ClientBindings.Proofs.Kinds
import ClientBindings.Proofs.Phases

/-!
# Outcome — what a run leaves behind

A run that fails leaves whole files only: those of the classes in front of the one that has no
source, or those of all classes if the shared sources could not be declared.  A run that completes
leaves the files of all classes, the shared sources, and a copy of the licence file.  All texts are
made up of whole characters; no file could hold another.

* `Run.Ends`, `Run.ends_of_ready` — the ways in which a run ends;
* `Run.LeavesWhole`, `Run.leavesWhole_of_ready` — what a run leaves, whatever its outcome.
-/

namespace ClientBindings
namespace Run

/-! ## Whole runs -/

section Whole

variable {c : Config} {schema : Schema} {disk : Disk} {files : List (Path × String)} {frozen : Bool}
  {q : Progress} {fault : Fault} {sources : List Source.ClassSource}

theorem leaves_of_alike {p : Progress} (h : Leaves disk files frozen p) (same : Alike p q) :
    Leaves disk files frozen q := by
  refine ⟨?_, same.written.trans h.written, same.frozen.trans h.frozen⟩
  rw [same.disk]
  exact h.holds

theorem run_of_completes (made : c.given.make c.classDir = .ok disk) {summary : Summary}
    (h : (all c schema).Completes (Progress.start disk) summary q) :
    (run c schema).result = .ok summary ∧ Alike q (run c schema).progress := by
  have ended : (all c schema).run.run (Progress.start disk) = (Except.ok summary, q) := h
  unfold run
  rw [made]
  dsimp only
  rw [ended]
  exact ⟨rfl, rfl, rfl, rfl⟩

theorem run_of_fails (made : c.given.make c.classDir = .ok disk)
    (h : (all c schema).Fails (Progress.start disk) fault q) :
    (run c schema).result = .error fault ∧ Alike q (run c schema).progress := by
  have ended : (all c schema).run.run (Progress.start disk) = (Except.error fault, q) := h
  unfold run
  rw [made]
  dsimp only
  rw [ended]
  exact ⟨rfl, rfl, rfl, rfl⟩

/-! ### Names of sources -/

/-- The source of a class has the name of the class, in its own spelling. -/
theorem name_of_sourceOf {cls : ApiClass} {source : Source.ClassSource}
    (h : sourceOf c schema cls = .ok source) :
    ∃ name, cls.name = .text name ∧ source.name = Naming.classCase name := by
  have result := Emission.result_of_settled h
  obtain ⟨name, hname, result⟩ := Emission.result_bind_eq_ok.mp result
  obtain ⟨doc, _, result⟩ := Emission.result_bind_eq_ok.mp result
  obtain ⟨record, _, result⟩ := Emission.result_bind_eq_ok.mp result
  obtain ⟨methods, _, result⟩ := Emission.result_bind_eq_ok.mp result
  refine ⟨name, Json.asText_eq_ok hname, ?_⟩
  rw [← Except.ok.inj result]

theorem takes_of_writable (writable : c.Writable schema disk) {classes : List ApiClass}
    (there : ∀ cls ∈ classes, cls ∈ schema.classes)
    (h : classes.mapM (sourceOf c schema) = .ok sources) :
    ∀ source ∈ sources, disk.Takes (sourceFile c source).1 := by
  intro source hsource
  obtain ⟨cls, hcls, generated⟩ := Except.exists_of_mem_of_mapM_eq_ok h hsource
  obtain ⟨name, named, same⟩ := name_of_sourceOf generated
  have takes := writable.sources cls (there cls hcls) name named
  rw [← same] at takes
  exact takes

theorem areSources_map (c : Config) (sources : List Source.ClassSource) :
    Disk.AreSources (sources.map (sourceFile c)) := by
  intro f hf
  obtain ⟨source, _, rfl⟩ := List.mem_map.mp hf
  exact ⟨c.classDir, source.name, rfl⟩

/-- Classes with sources are named and described by texts, so their kinds are registered. -/
theorem exists_settled_kinds (h : schema.classes.mapM (sourceOf c schema) = .ok sources) :
    ∃ name, (objectKinds schema.classes).javaType.settled = .ok name := by
  have texts : ∀ cls ∈ schema.classes, cls.name.isText = true ∧ cls.description.isText = true := by
    intro cls hcls
    obtain ⟨source, _, hsource⟩ := Except.exists_of_mem_mapM h hcls
    exact Source.texts_of_ofClass (Emission.result_of_settled hsource)
  have plain : ∀ v ∈ kindsOf schema.classes, v.isPlain = true := by
    intro v hv
    obtain ⟨cls, hcls, rfl⟩ := List.mem_map.mp hv
    obtain ⟨name, description⟩ := texts cls (mem_recordClasses.mp hcls).1
    exact Bool.and_eq_true_iff.mpr
      ⟨Json.isScalar_of_isText name, Json.isScalar_of_isText description⟩
  refine ⟨_, (Emission.settled_of_plain ?_).trans rfl⟩
  intro what hwhat
  have same : (objectKinds schema.classes).javaType.registered =
      [.type (objectKinds schema.classes), .enum objectKindsName (kindsOf schema.classes)] := rfl
  rw [same] at hwhat
  rcases List.mem_pair.mp hwhat with rfl | rfl
  · exact List.all_eq_true.mpr plain
  · rfl

/-! ### Outcomes -/

/-- The ways in which a run ends whose files can be written. -/
inductive Ends (c : Config) (schema : Schema) (disk : Disk) (outcome : Outcome) : Prop where
  /-- The kinds of objects cannot be registered. -/
  | unstarted {fault : Fault} : (objectKinds schema.classes).javaType.settled = .error fault →
      outcome.result = .error fault → Leaves disk [] false outcome.progress →
      Ends c schema disk outcome
  /-- A class has no source. -/
  | stopped {before after : List ApiClass} {cls : ApiClass} {sources : List Source.ClassSource}
      {fault : Fault} : schema.classes = before ++ cls :: after →
      before.mapM (sourceOf c schema) = .ok sources → sourceOf c schema cls = .error fault →
      outcome.result = .error fault →
      Leaves disk (sources.map (sourceFile c)) false outcome.progress → Ends c schema disk outcome
  /-- Something that the shared sources need cannot be declared. -/
  | failed {sources : List Source.ClassSource} {p : Progress} {fault : Fault} :
      schema.classes.mapM (sourceOf c schema) = .ok sources →
      (Run.classes c schema).Completes (Progress.start disk) () p →
      Shared.declarations p.registry.freeze.2 schema.errors = .error fault →
      outcome.result = .error fault →
      Leaves disk (sources.map (sourceFile c)) true outcome.progress → Ends c schema disk outcome
  | completed {sources : List Source.ClassSource} {summary : Summary}
      {shared : List (Path × String)} : schema.classes.mapM (sourceOf c schema) = .ok sources →
      outcome.result = .ok summary → SharedFiles c schema summary outcome.progress.disk shared →
      Leaves disk (sources.map (sourceFile c) ++ shared) true outcome.progress →
      Ends c schema disk outcome

theorem run_of_kinds_fault (writable : c.Writable schema disk)
    (h : (objectKinds schema.classes).javaType.settled = .error fault) :
    (run c schema).result = .error fault ∧ Leaves disk [] false (run c schema).progress := by
  obtain ⟨q, fails, stage⟩ := classes_fails_of_kinds h
  obtain ⟨result, same⟩ := run_of_fails writable.made (fails_bind.mpr (Or.inl fails))
  exact ⟨result, leaves_of_alike stage.leaves same⟩

theorem run_of_class_fault (writable : c.Writable schema disk) {kinds : String}
    {before after : List ApiClass} {cls : ApiClass}
    (hkinds : (objectKinds schema.classes).javaType.settled = .ok kinds)
    (split : schema.classes = before ++ cls :: after)
    (h : before.mapM (sourceOf c schema) = .ok sources)
    (failed : sourceOf c schema cls = .error fault) :
    (run c schema).result = .error fault ∧
      Leaves disk (sources.map (sourceFile c)) false (run c schema).progress := by
  have there : ∀ other ∈ before, other ∈ schema.classes := by
    intro other hother
    rw [split]
    exact List.mem_append_left _ hother
  obtain ⟨q, fails, stage⟩ :=
    classes_fails_of hkinds split (takes_of_writable writable there h) h failed
  obtain ⟨result, same⟩ := run_of_fails writable.made (fails_bind.mpr (Or.inl fails))
  exact ⟨result, leaves_of_alike stage.leaves same⟩

/-- The run behind the classes: everything can be declared, and is written, or nothing is. -/
theorem ends_of_sources (ready : c.Ready schema disk)
    (h : schema.classes.mapM (sourceOf c schema) = .ok sources) :
    Ends c schema disk (run c schema) := by
  obtain ⟨name, kinds⟩ := exists_settled_kinds h
  have takes := takes_of_writable ready.writable (fun _ hcls => hcls) h
  obtain ⟨p, collected, stage⟩ := classes_completes_of kinds takes h
  cases declared : Shared.declarations p.registry.freeze.2 schema.errors with
  | error fault =>
    obtain ⟨q, fails, ended⟩ := shared_fails_of stage declared
    obtain ⟨result, same⟩ :=
      run_of_fails ready.made (fails_bind.mpr (Or.inr ⟨(), p, collected, fails⟩))
    exact .failed h collected declared result (leaves_of_alike ended.leaves same)
  | ok d =>
    obtain ⟨q, shared, completes, files, leaves⟩ :=
      shared_completes_of ready stage (areSources_map c sources) declared
    obtain ⟨result, same⟩ :=
      run_of_completes ready.made (completes_bind.mpr ⟨(), p, collected, completes⟩)
    refine .completed h result ?_ (leaves_of_alike leaves same)
    rw [same.disk]
    exact files

theorem ends_of_ready (ready : c.Ready schema disk) : Ends c schema disk (run c schema) := by
  cases hkinds : (objectKinds schema.classes).javaType.settled with
  | error fault =>
    obtain ⟨result, leaves⟩ := run_of_kinds_fault ready.writable hkinds
    exact .unstarted hkinds result leaves
  | ok kinds =>
    cases hsources : schema.classes.mapM (sourceOf c schema) with
    | error fault =>
      obtain ⟨before, cls, after, sources, split, hbefore, hcls⟩ := Except.mapM_eq_error hsources
      obtain ⟨result, leaves⟩ := run_of_class_fault ready.writable hkinds split hbefore hcls
      exact .stopped split hbefore hcls result leaves
    | ok sources => exact ends_of_sources ready hsources

end Whole

/-- What a run may leave, whatever comes of it. -/
structure LeavesWhole (c : Config) (schema : Schema) (disk : Disk) (outcome : Outcome) : Prop where
  /-- A run that completes has written the sources of all classes and the shared sources. -/
  completed : ∀ summary, outcome.result = .ok summary → ∃ sources shared,
    schema.classes.mapM (sourceOf c schema) = .ok sources ∧
    SharedFiles c schema summary outcome.progress.disk shared ∧
    Leaves disk (sources.map (sourceFile c) ++ shared) true outcome.progress
  /-- Where the kinds of objects cannot be registered, nothing is written. -/
  unstarted : ∀ fault, (objectKinds schema.classes).javaType.settled = .error fault →
    outcome.result = .error fault ∧ Leaves disk [] false outcome.progress
  /-- The first class without a source ends the run behind the classes in front of it. -/
  stopped : ∀ kinds before cls after sources fault,
    (objectKinds schema.classes).javaType.settled = .ok kinds →
    schema.classes = before ++ cls :: after →
    before.mapM (sourceOf c schema) = .ok sources → sourceOf c schema cls = .error fault →
    outcome.result = .error fault ∧ Leaves disk (sources.map (sourceFile c)) false outcome.progress
  /-- A run that fails behind all classes has written them, and no shared source. -/
  failed : ∀ sources fault, schema.classes.mapM (sourceOf c schema) = .ok sources →
    outcome.result = .error fault →
    Leaves disk (sources.map (sourceFile c)) true outcome.progress

/-- A run whose files can be written leaves whole files only: all of them if it completes, those of
the classes in front of the one that failed, or those of all classes if a shared source failed. -/
theorem leavesWhole_of_ready {c : Config} {schema : Schema} {disk : Disk}
    (ready : c.Ready schema disk) : LeavesWhole c schema disk (run c schema) := by
  refine ⟨?_, ?_, ?_, ?_⟩
  · intro summary completed
    cases ends_of_ready ready with
    | completed hsources result files leaves =>
      rw [completed] at result
      rw [Except.ok.inj result]
      exact ⟨_, _, hsources, files, leaves⟩
    | unstarted _ result _ => simp [completed] at result
    | stopped _ _ _ result _ => simp [completed] at result
    | failed _ _ _ result _ => simp [completed] at result
  · intro fault hkinds
    exact run_of_kinds_fault ready hkinds
  · intro kinds before cls after sources fault hkinds split hbefore hcls
    exact run_of_class_fault ready hkinds split hbefore hcls
  · intro sources fault hsources failed
    -- All classes have their sources, so the run ends behind them.
    cases ends_of_sources ready hsources with
    | failed others _ _ _ leaves =>
      rw [hsources] at others
      rw [Except.ok.inj others]
      exact leaves
    | completed _ result _ _ => simp [failed] at result
    | unstarted hkinds _ _ =>
      obtain ⟨name, kinds⟩ := exists_settled_kinds hsources
      simp [kinds] at hkinds
    | stopped split _ hcls _ _ =>
      obtain ⟨source, _, hsource⟩ := Except.exists_of_mem_mapM hsources
        (split ▸ List.mem_append_right _ List.mem_cons_self)
      simp [hsource] at hcls

end Run

/-! ## A run with a licence file -/

namespace Sample

/-- A disk with a licence file in the working folder. -/
def licenceDisk : Disk :=
  Disk.ofFiles [("LICENSE", "text of the licence")]

/-- A configuration that copies the licence file, for sources of some package. -/
def licensed (package : String) : Config :=
  ⟨folder, package, "", [], none, some (Path.ofText "LICENSE"), licenceDisk⟩

/-- The schema of a document, and the disk on which a run begins. -/
def prepared? (c : Config) (document : Json) : Option (Schema × Disk) := do
  let schema ← (Schema.ofDocument document).toOption
  let disk ← (c.given.make c.classDir).toOption
  return (schema, disk)

theorem of_prepared?_eq_some {c : Config} {document : Json} {schema : Schema} {disk : Disk}
    (h : prepared? c document = some (schema, disk)) :
    Schema.ofDocument document = .ok schema ∧ c.given.make c.classDir = .ok disk := by
  obtain ⟨parsed, hparsed, h⟩ := Option.bind_eq_some_iff.mp h
  obtain ⟨made, hmade, h⟩ := Option.bind_eq_some_iff.mp h
  obtain ⟨rfl, rfl⟩ := Prod.mk.inj (Option.some.inj h)
  exact ⟨Except.eq_ok_of_toOption hparsed, Except.eq_ok_of_toOption hmade⟩

set_option maxRecDepth 20000 in
theorem ready_events :
    ((prepared? (licensed "p") events).any fun (schema, disk) =>
      (licensed "p").Ready schema disk) = true := by
  decide +kernel

end Sample

namespace Run

theorem leavesWhole_of_ready_events :
    ∃ schema disk, Schema.ofDocument Sample.events = .ok schema ∧
      (Sample.licensed "p").Ready schema disk ∧
      LeavesWhole (Sample.licensed "p") schema disk (run (Sample.licensed "p") schema) := by
  obtain ⟨⟨schema, disk⟩, prepared, ready⟩ := (Option.any_eq_true _ _).mp Sample.ready_events
  have ready := of_decide_eq_true ready
  exact ⟨schema, disk, (Sample.of_prepared?_eq_some prepared).1, ready, leavesWhole_of_ready ready⟩

end Run

/-! ## A package in the place of the licence -/

namespace Sample

def machine : Json :=
  .object [("classes", .list [.object [("name", .text "vm")]])]

/-- The folder of this package is where the copy of the licence goes. -/
def shadowing : Config :=
  licensed "resources.LICENSE"

def fault? (outcome : Outcome) : Option Fault :=
  match outcome.result with
  | .error fault => some fault
  | .ok _ => none

theorem result_of_fault? {outcome : Outcome} {fault : Fault} (h : fault? outcome = some fault) :
    outcome.result = .error fault := by
  unfold fault? at h
  split at h
  · next failed => rw [failed, Option.some.inj h]
  · simp at h

/-- Whether all sources of classes are written, with the shared sources behind them, in a run that
fails in the end. -/
def IsShadowed (schema : Schema) (disk : Disk) : Prop :=
  (∀ cls ∈ schema.classes, ∀ name, cls.name = .text name →
    disk.Takes (shadowing.classDir.child (Naming.classCase name ++ Disk.extension))) ∧
  (∃ text, shadowing.given.read (Path.ofText "LICENSE") = .ok text) ∧
  (∃ sources, schema.classes.mapM (Run.sourceOf shadowing schema) = .ok sources) ∧
  fault? (run shadowing schema) = some (.disk .isFolder) ∧
  (run shadowing schema).progress.registry.frozen = true ∧
  schema.classes.length = 1 ∧
  (run shadowing schema).progress.written =
    ["out/resources/LICENSE/Vm.java", "out/resources/LICENSE/Types.java",
      "out/resources/LICENSE/APIVersion.java"]

instance (schema : Schema) (disk : Disk) : Decidable (IsShadowed schema disk) := by
  unfold IsShadowed
  infer_instance

set_option maxRecDepth 20000 in
theorem isShadowed_machine :
    ((prepared? shadowing machine).any fun (schema, disk) => IsShadowed schema disk) = true := by
  decide +kernel

end Sample

namespace Run

/-- A folder stands where the licence would go.  That ends the run, but only once the shared sources
are written, although the file can be read and the names of the classes are fine. -/
theorem not_leavesWhole_of_shadowing :
    ∃ schema disk, Schema.ofDocument Sample.machine = .ok schema ∧
      Sample.shadowing.given.make Sample.shadowing.classDir = .ok disk ∧
      Sample.shadowing.templates = none ∧ Sample.IsShadowed schema disk ∧
      ¬LeavesWhole Sample.shadowing schema disk (run Sample.shadowing schema) := by
  obtain ⟨⟨schema, disk⟩, prepared, shadowed⟩ :=
    (Option.any_eq_true _ _).mp Sample.isShadowed_machine
  obtain ⟨parsed, made⟩ := Sample.of_prepared?_eq_some prepared
  have shadowed : Sample.IsShadowed schema disk := of_decide_eq_true shadowed
  refine ⟨schema, disk, parsed, made, rfl, shadowed, ?_⟩
  intro whole
  obtain ⟨_, _, ⟨sources, hsources⟩, failed, _, single, three⟩ := shadowed
  have leaves := whole.failed sources _ hsources (Sample.result_of_fault? failed)
  have one : sources.length = 1 :=
    (Except.mapM_eq_ok.mp hsources).length_eq.symm.trans single
  -- Three files are written, and only one of them is that of a class.
  have count := congrArg List.length (three.symm.trans leaves.written)
  simp [one] at count

end Run
end ClientBindings
