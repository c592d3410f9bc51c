import ClientBindings.CommandLine.Execution
import ClientBindings.Proofs.Course
import ClientBindings.Proofs.RunFaults

/-!
# Exits — which documents end the program

A run that stops with a fault of its schema is reported, and the program exits with code 1.  Any
other fault ends the program.  Which documents do so can be told from them: those with names or
descriptions that some source needs as texts and that are none.  A run never gets to what comes
behind a member without a default, nor to the releases where a function cannot be declared, so
nothing is asked of either.

* `ErrorDef.Presentable`, `EnumValue.Presentable` — what the shared sources ask for;
* `Shared.declarations_judged`, `Run.course_judged` — how declarations and runs end;
* `Schema.isBare`, `Run.HasGap`, `Run.Presentable` — where a run stops with a fault that is
  reported, and what it gets to ask of its schema until then;
* `Request.Asks` — a request with the built-in templates and no licence file, whatever reads YAML;
* `Run.Exits`, `Run.exits_of_writable` — the schemas with which no run ends the program.
-/

namespace ClientBindings

open Emission

/-! ## Declarations -/

/-- An error that can be declared. -/
structure ErrorDef.Presentable (e : ErrorDef) : Prop where
  named : e.name.isText = true
  params : ∀ param ∈ e.params, param.isText = true
  description : e.description.isText = true

/-- A value of an enumeration that can be declared. -/
structure EnumValue.Presentable (v : EnumValue) : Prop where
  wire : v.wire.isText = true
  description : v.description.isText = true

namespace Shared

theorem errorEntry_needs (e : ErrorDef) :
    Except.Needs Fault.Reported e.Presentable (errorEntry e) := by
  have chain : Except.Needs Fault.Reported _ (errorEntry e) :=
    (Except.Judged.needs_mapM fun param _ => Json.asText_needs param).needs_bind fun _ _ =>
      (Comment.described_needs e.description).needs_bind fun _ _ =>
        (Json.asText_needs e.name).bind_pure _
  refine chain.congr ?_ Iff.rfl
  exact ⟨fun h => ⟨h.params, h.description, h.named⟩, fun h => ⟨h.2.2, h.1, h.2.1⟩⟩

/-- Errors that cannot be sorted are not all named by texts. -/
theorem errorEntries_needs (errors : List ErrorDef) :
    Except.Needs Fault.Reported (∀ e ∈ errors, e.Presentable) (errorEntries errors) := by
  have declared (others : List ErrorDef) : Except.Needs Fault.Reported
      (∀ e ∈ others, e.Presentable) (others.mapM errorEntry) :=
    Except.Judged.needs_mapM fun e _ => errorEntry_needs e
  unfold errorEntries sortedErrors
  -- The order of the errors decides nothing, except that some have none.
  split
  · refine (declared (sortedBy (fun e => e.name.display) errors)).congr ?_ Iff.rfl
    simp only [mem_sortedBy]
  · next unnamed =>
    split
    · exact declared errors
    · refine (Except.Judged.error (by decide)).congr (iff_false_intro ?_) Iff.rfl
      intro all
      exact unnamed (List.all_eq_true.mpr fun e he => (all e he).named)

theorem enumConstant_needs (v : EnumValue) :
    Except.Needs Fault.Reported v.Presentable (enumConstant v) := by
  have chain : Except.Needs Fault.Reported _ (enumConstant v) :=
    (Json.asText_needs v.description).needs_bind fun _ _ => (Json.asText_needs v.wire).bind_pure _
  refine chain.congr ?_ Iff.rfl
  exact ⟨fun h => ⟨h.description, h.wire⟩, fun h => ⟨h.2, h.1⟩⟩

theorem enumEntries_needs (snapshot : Snapshot) : Except.Needs Fault.Reported
    (∀ e ∈ snapshot.enums, ∀ v ∈ e.2, v.Presentable) (enumEntries snapshot) := by
  have each : Except.Needs Fault.Reported (∀ e ∈ sortedBy Prod.fst snapshot.enums,
      ∀ v ∈ e.2, v.Presentable) (enumEntries snapshot) :=
    Except.Judged.needs_mapM fun e _ =>
      (Except.Judged.needs_mapM fun v _ => enumConstant_needs v).bind_pure _
  refine each.congr ?_ Iff.rfl
  simp only [mem_sortedBy]

/-- Declarations ask for the texts of errors and values, and stop where a layout or a case is
missing. -/
theorem declarations_judged {snapshot : Snapshot} (errors : List ErrorDef)
    (readable : (∀ e ∈ snapshot.enums, ∀ v ∈ e.2, v.Presentable) →
      snapshot.Readable Fault.Reported) :
    Except.Judged Fault.Reported
      ((∀ e ∈ errors, e.Presentable) ∧ ∀ e ∈ snapshot.enums, ∀ v ∈ e.2, v.Presentable)
      (∃ fault, typeEntries snapshot = .error fault) (declarations snapshot errors) := by
  have gaps : Fault.AllowsGaps Fault.Reported := ⟨fun _ => rfl, fun _ => rfl⟩
  have chain : Except.Judged Fault.Reported _ _ (declarations snapshot errors) :=
    (errorEntries_needs errors).needs_bind fun _ _ =>
      (enumEntries_needs snapshot).needs_bind fun enums henums => by
        -- Once the values are declared, what is left to fail is a gap.
        have values := ((enumEntries_needs snapshot).exists_ok_iff.mp ⟨enums, henums⟩).1
        have only := typeEntries_failsOnly gaps (readable values)
        exact (Except.Judged.of_failsOnly only).bind_pure _
  exact chain.congr (by simp only [and_true]) Iff.rfl

end Shared

/-! ## Runs -/

/-- Whether a class has a member without a default, where a run over the schema stops. -/
def Schema.isBare (schema : Schema) : Bool :=
  schema.classes.any ApiClass.isBare

theorem Schema.isBare_iff {schema : Schema} :
    schema.isBare = true ↔ ∃ cls ∈ schema.classes, cls.isBare = true :=
  List.any_eq_true

namespace Run

section Snapshots

variable {c : Config} {document : Json} {schema : Schema} {disk : Disk} {p : Progress}

/-- The enumerations of a snapshot are those that the classes mention, and the kinds of objects,
whose texts the sources have asked for already. -/
theorem enums_presentable_iff (parsed : Schema.ofDocument document = .ok schema)
    (completed : (classes c schema).Completes (Progress.start disk) () p) :
    (∀ e ∈ p.registry.freeze.2.enums, ∀ v ∈ e.2, v.Presentable) ↔
      ∀ cls ∈ schema.classes, ∀ v ∈ cls.values, v.Presentable := by
  constructor
  · intro held cls hcls v hv
    obtain ⟨ty, hty, hv⟩ := List.mem_flatMap.mp hv
    obtain ⟨name, values, hpart, hv⟩ := Ty.mem_values.mp hv
    have there := get?_enums_of_mentioned parsed completed ⟨cls, hcls, ty, hty, hpart⟩
    exact held (name, values) (Table.mem_of_lookup_eq_some there) v hv
  · intro mentioned e he v hv
    rcases Schema.uses_iff.mp (uses_of_mem_enums completed he) with kinds | ⟨cls, hcls, ty, hty, hpart⟩
    · have same : e.2 = kindsOf schema.classes := (Ty.enum.inj kinds).2
      rw [same] at hv
      obtain ⟨cls, hcls, rfl⟩ := List.mem_map.mp hv
      obtain ⟨source, hsource⟩ := (registry_of_classes completed).1 cls (mem_recordClasses.mp hcls).1
      obtain ⟨name, description⟩ := Source.texts_of_ofClass hsource
      exact ⟨name, description⟩
    · refine mentioned cls hcls v (List.mem_flatMap.mpr ⟨ty, hty, ?_⟩)
      exact Ty.mem_values.mpr ⟨e.1, e.2, hpart, hv⟩

theorem readable_of_values {P : Fault → Prop} (parsed : Schema.ofDocument document = .ok schema)
    (completed : (classes c schema).Completes (Progress.start disk) () p)
    (values : ∀ e ∈ p.registry.freeze.2.enums, ∀ v ∈ e.2, v.Presentable) :
    p.registry.freeze.2.Readable P := by
  obtain ⟨enums, known⟩ := Schema.known_of_ofDocument parsed
  have closed := closed_of_classes parsed completed
  have types : ∀ ty ∈ p.registry.freeze.2.types, ty.Resolves := by
    intro ty hty part hpart
    have there := closed.part_mem ty hty part hpart
    have plain := plain_of_classes completed part there
    -- A registry has looked up the values of an enumeration, and a document knows its scalars.
    cases part with
    | primitive kind =>
      -- The kinds of objects are an enumeration, so a class mentions the scalar.
      rcases Schema.uses_iff.mp ((mem_types_of_classes parsed completed _).mp there) with
        kinds | ⟨cls, hcls, root, hroot, hkind⟩
      · cases kinds
      · exact known cls hcls root hroot _ hkind
    | enum name values => exact List.all_eq_true.mp plain
    | set item => trivial
    | map key value => trivial
    | ref cls => trivial
    | record cls => trivial
    | option inner => trivial
  refine ⟨types, ?_, ?_⟩
  · intro name layout hlayout member hmember
    exact types _ (closed.layout_mem name layout hlayout member hmember)
  · intro e he v hv
    exact ⟨(values e he v hv).wire, Or.inl (values e he v hv).description⟩

end Snapshots

/-- Whether a function of the shared source cannot be declared. -/
def HasGap (c : Config) (schema : Schema) : Prop :=
  ∃ fault, Shared.typeEntries (snapshotOf c schema) = .error fault

/-- A schema that has the texts that a run over it gets to ask for. -/
structure Presentable (c : Config) (schema : Schema) : Prop where
  /-- The kinds of objects are registered in front of all classes. -/
  kinds : (objectKinds schema.classes).isPlain = true
  /-- A member without a default is the end of the run. -/
  classes : ∀ cls ∈ through ApiClass.isBare schema.classes, cls.Presentable
  errors : ¬schema.isBare = true → ∀ e ∈ schema.errors, e.Presentable
  values : ¬schema.isBare = true → ∀ cls ∈ schema.classes, ∀ v ∈ cls.values, v.Presentable
  /-- The releases come last. -/
  releases : ¬schema.isBare = true → ¬HasGap c schema →
    ∀ r ∈ schema.releases, r.codeName.isText = true

variable {c : Config} {document : Json} {schema : Schema} {disk : Disk}

theorem kinds_need_plain (classes : List ApiClass) :
    (objectKinds classes).javaType.Needs ((objectKinds classes).isPlain = true) := by
  refine Ty.javaType_needs ?_
  intro kind hkind
  cases List.mem_singleton.mp hkind

/-- Behind the classes, what is declared asks for the texts of errors and values. -/
theorem declarations_judged_of_sources (parsed : Schema.ofDocument document = .ok schema)
    (writable : c.Writable schema disk) {kinds : String} {sources : List Source.ClassSource}
    (hkinds : (objectKinds schema.classes).javaType.settled = .ok kinds)
    (hsources : schema.classes.mapM (sourceOf c schema) = .ok sources) :
    Except.Judged Fault.Reported
      ((∀ e ∈ schema.errors, e.Presentable) ∧
        ∀ cls ∈ schema.classes, ∀ v ∈ cls.values, v.Presentable)
      (HasGap c schema) (Shared.declarations (snapshotOf c schema) schema.errors) := by
  obtain ⟨p, completed, _, held⟩ := exists_behind_classes writable hkinds hsources
  have judged := Shared.declarations_judged schema.errors (readable_of_values parsed completed)
  rw [enums_presentable_iff parsed completed, held] at judged
  exact judged

/-- How a run ends can be told from its schema. -/
theorem course_judged (parsed : Schema.ofDocument document = .ok schema)
    (writable : c.Writable schema disk) :
    Except.Judged Fault.Reported (Presentable c schema)
      (schema.isBare = true ∨ HasGap c schema) (course c schema) := by
  obtain ⟨enums, known⟩ := Schema.known_of_ofDocument parsed
  have sourced : ∀ cls ∈ schema.classes, Except.Judged Fault.Reported cls.Presentable
      (cls.isBare = true) (sourceOf c schema cls) := by
    intro cls hcls
    refine Source.ClassSource.ofClass_judged ?_
    intro ty hty
    exact Ty.hasScalars_of_known (known cls hcls ty hty)
  have chain : Except.Judged Fault.Reported _ _ (course c schema) :=
    Except.Judged.needs_bind (kinds_need_plain schema.classes) fun _ hkinds =>
      (Except.Judged.mapM sourced).bind fun _ hsources =>
        (declarations_judged_of_sources parsed writable hkinds hsources).bind fun _ _ =>
          (releasesScope_needs c schema).bind_pure _
  rw [← Schema.isBare_iff] at chain
  refine chain.congr ?_ (by simp only [or_false])
  constructor
  · intro presents
    refine ⟨presents.kinds, presents.classes, ?_⟩
    intro whole
    exact ⟨⟨presents.errors whole, presents.values whole⟩, presents.releases whole⟩
  · rintro ⟨kinds, classes, behind⟩
    exact ⟨kinds, classes, fun whole => (behind whole).1.1, fun whole => (behind whole).1.2,
      fun whole => (behind whole).2⟩

end Run

/-! ## The program -/

namespace CommandLine

/-- A request with the built-in templates and no licence file, over a file that holds a schema in
JSON or in YAML. -/
structure Request.Asks (n : Notations) (r : Request) (file : String) (c : Config)
    (schema : Schema) : Prop where
  outputDir : r.outputDir.map Path.ofText = some c.outputDir
  package : r.package = some c.package
  overrides : r.allOverrides = .ok c.overrides
  licenceHeader : c.licenceHeader = Config.defaultHeader
  templates : r.templates = "" ∧ c.templates = none
  licence : r.license = "" ∧ c.licenceFile = none
  document : ∃ text, c.given.read (.ofText file) = .ok text ∧
    Schema.ofText n.yaml (.ofText file) text = .ok schema

/-- A program that exits with code 0 or 1. -/
def Report.Exits (report : Report) : Prop :=
  ∃ code ≤ 1, report.exit = .ok code

theorem Report.exits_failed_iff {fault : Fault} {log : List LogLine} {disk : Disk} :
    (failed fault log disk).Exits ↔ fault.isReported = true := by
  unfold Exits failed
  cases fault.isReported with
  | true => exact iff_of_true ⟨1, le_refl 1, rfl⟩ rfl
  | false =>
    refine iff_of_false ?_ Bool.false_ne_true
    rintro ⟨code, _, exit⟩
    cases exit

variable {n : Notations} {r : Request} {file : String} {c : Config} {schema : Schema}

/-- The schema in a file is handed on where its releases can be looked up. -/
theorem readSchema_of_read {disk : Disk} {text : String}
    (read : disk.read (.ofText file) = .ok text)
    (parsed : Schema.ofText n.yaml (.ofText file) text = .ok schema) :
    readSchema n.yaml disk file = Release.table schema.releases >>= fun _ => pure schema := by
  unfold readSchema
  rw [read]
  dsimp only [Except.mapError, bind, Except.bind]
  rw [parsed]

theorem Request.Asks.plan_eq (asks : r.Asks n file c schema) :
    r.plan n file c.given = Release.table schema.releases >>= fun _ => pure (c, schema) := by
  obtain ⟨folder, given, place⟩ := Option.map_eq_some_iff.mp asks.outputDir
  obtain ⟨text, read, parsed⟩ := asks.document
  have config : (⟨.ofText folder, c.package, Config.defaultHeader, c.overrides, none, none,
      c.given⟩ : Config) = c := by
    calc _ = ⟨c.outputDir, c.package, c.licenceHeader, c.overrides, c.templates, c.licenceFile,
          c.given⟩ := by
          rw [place, asks.licenceHeader, asks.templates.2, asks.licence.2]
      _ = c := rfl
  unfold plan
  rw [given, asks.overrides, readSchema_of_read read parsed, asks.package, asks.templates.1,
    asks.licence.1]
  cases Release.table schema.releases with
  | error fault => rfl
  | ok releases => exact congrArg (fun config => Except.ok (config, schema)) config

/-- A program exits where its releases can be looked up and the fault of its run, if there is one,
is reported. -/
theorem exits_iff_of_asks (asks : r.Asks n file c schema) : (execute n r file c.given).Exits ↔
    (∀ release ∈ schema.releases, release.codeName.isScalar = true) ∧
      Except.FailsOnly Fault.Reported (run c schema).result := by
  have planned := asks.plan_eq
  unfold Release.table at planned
  unfold execute
  by_cases named : schema.releases.all (fun release => release.codeName.isScalar) = true
  · rw [if_pos named] at planned
    have looked := List.all_eq_true.mp named
    rw [planned]
    dsimp only [bind, Except.bind, pure, Except.pure]
    cases (run c schema).result with
    | error fault =>
      refine Report.exits_failed_iff.trans ?_
      constructor
      · intro reported
        exact ⟨looked, Except.FailsOnly.error reported⟩
      · rintro ⟨_, only⟩
        exact only fault rfl
    | ok summary =>
      exact iff_of_true ⟨0, Nat.zero_le 1, rfl⟩ ⟨looked, Except.FailsOnly.ok summary⟩
  · rw [if_neg named] at planned
    rw [planned]
    refine iff_of_false ?_ ?_
    · intro exits
      have reported := Report.exits_failed_iff.mp exits
      cases reported
    · rintro ⟨all, _⟩
      exact named (List.all_eq_true.mpr all)

end CommandLine

namespace Run

open CommandLine

/-- How runs over a schema end, and the program on a file that holds it. -/
structure Exits (c : Config) (schema : Schema) : Prop where
  completes : (∃ summary, (run c schema).result = .ok summary) ↔
    Presentable c schema ∧ ¬(schema.isBare = true ∨ HasGap c schema)
  /-- A run that does not complete stops with a fault that is reported. -/
  reports : (∀ fault, (run c schema).result = .error fault → fault.isReported = true) ↔
    Presentable c schema
  /-- The program exits with code 0 or 1. -/
  exits : ∀ (n : Notations) (r : Request) (file : String), r.Asks n file c schema →
    ((∃ code ≤ 1, (execute n r file c.given).exit = .ok code) ↔
      (∀ release ∈ schema.releases, release.codeName.isScalar = true) ∧ Presentable c schema)

/-- Where its files can be written, a parsed schema ends the program exactly if it lacks a text that
a run gets to ask for, or has a release that cannot be looked up. -/
theorem exits_of_writable {c : Config} {document : Json} {schema : Schema} {disk : Disk}
    (parsed : Schema.ofDocument document = .ok schema) (writable : c.Writable schema disk) :
    Exits c schema := by
  have judged := course_judged parsed writable
  rw [← result_eq_course writable] at judged
  refine ⟨judged.exists_ok_iff, judged.failsOnly_iff, ?_⟩
  intro n r file asks
  exact (exits_iff_of_asks asks).trans (and_congr_right fun _ => judged.failsOnly_iff)

end Run

/-! ## Schema files -/

namespace Sample

open CommandLine

/-- What a request without options asks for, on a disk with a schema file. -/
def filed (text : String) : Config :=
  ⟨.ofText "generated", Config.defaultPackage, Config.defaultHeader, Config.defaultOverrides, none,
    none, Disk.ofFiles [("api.json", text)]⟩

theorem asks_filed {text : String} {document : Json} {schema : Schema}
    (found : (filed text).given.read (.ofText "api.json") = .ok text)
    (read : Json.read text = .ok document) (parsed : Schema.ofDocument document = .ok schema) :
    ∀ n, Request.start.Asks n "api.json" (filed text) schema := by
  intro n
  have json : (Path.ofText "api.json").isYaml = false := by decide +kernel
  have whole : Schema.ofText n.yaml (.ofText "api.json") text = .ok schema := by
    rw [Schema.ofText, Document.ofText, if_neg (Bool.eq_false_iff.mp json), read]
    dsimp only [Except.mapError, bind, Except.bind]
    rw [parsed]
  exact ⟨rfl, rfl, rfl, rfl, ⟨rfl, rfl⟩, ⟨rfl, rfl⟩, text, found, whole⟩

def machineText : String :=
  "\x7b\"classes\":[\x7b\"name\":\"vm\"\x7d]\x7d"

set_option maxRecDepth 20000 in
theorem ready_machineText :
    (filed machineText).given.read (.ofText "api.json") = .ok machineText ∧
      Json.read machineText = .ok machine ∧
      ((prepared? (filed machineText) machine).any fun (schema, disk) =>
        (filed machineText).Ready schema disk) = true := by
  decide +kernel

end Sample

namespace Run

theorem exits_of_writable_machine :
    ∃ schema disk, Schema.ofDocument Sample.machine = .ok schema ∧
      (Sample.filed Sample.machineText).Writable schema disk ∧
      (∀ n, CommandLine.Request.start.Asks n "api.json" (Sample.filed Sample.machineText) schema) ∧
      Exits (Sample.filed Sample.machineText) schema := by
  obtain ⟨found, read, prepared⟩ := Sample.ready_machineText
  obtain ⟨⟨schema, disk⟩, prepared, ready⟩ := (Option.any_eq_true _ _).mp prepared
  have parsed := (Sample.of_prepared?_eq_some prepared).1
  have writable := (of_decide_eq_true ready).writable
  exact ⟨schema, disk, parsed, writable, Sample.asks_filed found read parsed,
    exits_of_writable parsed writable⟩

end Run

/-! ## A description that is null -/

namespace Sample

/-- A class with nothing for its description, which other sources take for none. -/
def undescribed : Json :=
  .object [("classes", .list [.object [("name", .text "vm"), ("description", .null)]])]

def undescribedText : String :=
  "\x7b\"classes\":[\x7b\"name\":\"vm\",\"description\":null\x7d]\x7d"

set_option maxRecDepth 20000 in
theorem ready_undescribedText :
    (filed undescribedText).given.read (.ofText "api.json") = .ok undescribedText ∧
      Json.read undescribedText = .ok undescribed ∧
      ((prepared? (filed undescribedText) undescribed).any fun (schema, disk) =>
        (filed undescribedText).Ready schema disk ∧
          fault? (run (filed undescribedText) schema) = some .textExpected) = true := by
  decide +kernel

end Sample

namespace Run

/-- The document is accepted and all files can be written, but the run stops with a fault that is
not reported, and ends the program. -/
theorem not_reported_of_undescribed :
    ∃ schema disk, Schema.ofDocument Sample.undescribed = .ok schema ∧
      (Sample.filed Sample.undescribedText).Writable schema disk ∧
      (∀ n, CommandLine.Request.start.Asks n "api.json" (Sample.filed Sample.undescribedText)
        schema) ∧
      (run (Sample.filed Sample.undescribedText) schema).result = .error .textExpected ∧
      ¬(∀ fault, (run (Sample.filed Sample.undescribedText) schema).result = .error fault →
        fault.isReported = true) ∧
      ∀ n, ¬∃ code ≤ 1, (CommandLine.execute n .start "api.json"
        (Sample.filed Sample.undescribedText).given).exit = .ok code := by
  obtain ⟨found, read, prepared⟩ := Sample.ready_undescribedText
  obtain ⟨⟨schema, disk⟩, prepared, facts⟩ := (Option.any_eq_true _ _).mp prepared
  have parsed := (Sample.of_prepared?_eq_some prepared).1
  obtain ⟨ready, fault⟩ := of_decide_eq_true facts
  have failed := Sample.result_of_fault? fault
  have asks := Sample.asks_filed found read parsed
  have unreported : ¬∀ fault, (run (Sample.filed Sample.undescribedText) schema).result =
      .error fault → fault.isReported = true := by
    intro all
    cases all _ failed
  refine ⟨schema, disk, parsed, ready.writable, asks, failed, unreported, ?_⟩
  intro n exits
  exact unreported ((CommandLine.exits_iff_of_asks (asks n)).mp exits).2

end Run
end ClientBindings
