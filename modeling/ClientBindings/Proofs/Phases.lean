import ClientBindings.Proofs.Collection
import ClientBindings.Proofs.Places
import ClientBindings.Proofs.Rendering

/-!
# Phases — the steps of a run, and how they end

A source is generated before its file is opened, and everything that the shared sources need is
declared before the first of them is written.  So each of the two phases either writes all its files
or stops between two of them.

* `Run.Fails` — a step of a run that fails, with the progress it leaves;
* `Run.Stage` — a run between two steps: the files it has written, and whether its registry is frozen;
* `Run.classes_completes_of`, `Run.classes_fails_of` — the sources of all classes;
* `Config.Writable`, `Config.Ready` — a configuration whose files can be written, as far as the run
  gets, and one for a schema whose releases can be written, too;
* `Run.shared_completes_of`, `Run.shared_fails_of` — the shared sources and the licence.
-/

namespace ClientBindings

/-! ## Steps -/

namespace Run

variable {α β : Type} {p q : Progress} {fault : Fault}

/-- From progress `p`, a step fails and leaves progress `q`. -/
def Fails (m : Run α) (p : Progress) (fault : Fault) (q : Progress) : Prop :=
  (m.run.run p).run = (.error fault, q)

theorem fails_bind {m : Run α} {f : α → Run β} : (m >>= f).Fails p fault q ↔
    m.Fails p fault q ∨ ∃ a p', m.Completes p a p' ∧ (f a).Fails p' fault q := by
  unfold Fails Completes
  rw [run_bind]
  rcases (m.run.run p).run with ⟨result, p'⟩
  cases result with
  | error other => simp
  | ok a => simp

/-! ### What a step leaves alone -/

/-- Progress with the same files and the same freedom to register. -/
structure Alike (p q : Progress) : Prop where
  disk : q.disk = p.disk
  written : q.written = p.written
  frozen : q.registry.frozen = p.registry.frozen

theorem report_completes_of (level : Level) (part text : String) (p : Progress) :
    ∃ q, (report level part text).Completes p () q ∧ Alike p q :=
  ⟨_, rfl, rfl, rfl, rfl⟩

/-- In an open registry, an emission settles to a value or to a fault, and writes nothing. -/
theorem emit_completes_of (opened : p.registry.frozen = false) {m : Emission α} {a : α}
    (h : m.settled = .ok a) : ∃ q, (emit m).Completes p a q ∧ Alike p q := by
  obtain ⟨same, stays⟩ := Emission.settle_of_open opened m
  refine ⟨((emit m).run.run p).run.2, ?_, rfl, rfl, stays.trans opened.symm⟩
  exact Prod.ext (same.trans h) rfl

theorem emit_fails_of (opened : p.registry.frozen = false) {m : Emission α}
    (h : m.settled = .error fault) : ∃ q, (emit m).Fails p fault q ∧ Alike p q := by
  obtain ⟨same, stays⟩ := Emission.settle_of_open opened m
  refine ⟨((emit m).run.run p).run.2, ?_, rfl, rfl, stays.trans opened.symm⟩
  exact Prod.ext (same.trans h) rfl

theorem ofExcept_completes_of {result : Except Fault α} {a : α} (h : result = .ok a) (p : Progress) :
    (ofExcept result).Completes p a p := by
  rw [h]
  rfl

theorem ofExcept_fails_of {result : Except Fault α} (h : result = .error fault) (p : Progress) :
    (ofExcept result : Run α).Fails p fault p := by
  rw [h]
  rfl

/-! ### Files -/

/-- A run between two steps that write files into folders that are there. -/
structure Stage (disk : Disk) (files : List (Path × String)) (frozen : Bool) (p : Progress) :
    Prop where
  holds : p.disk.Holds disk.files files
  written : p.written = files.map fun f => f.1.text
  folders : p.disk.folders = disk.folders
  frozen : p.registry.frozen = frozen

section Stages

variable {disk : Disk} {files : List (Path × String)} {frozen : Bool}

theorem Stage.of_alike (stage : Stage disk files frozen p) (same : Alike p q) :
    Stage disk files frozen q := by
  refine ⟨?_, ?_, ?_, ?_⟩
  · rw [same.disk]
    exact stage.holds
  · rw [same.written]
    exact stage.written
  · rw [same.disk]
    exact stage.folders
  · rw [same.frozen]
    exact stage.frozen

theorem writeFile_completes_of {folder : Path} {name text : String} {d : Disk}
    (h : p.disk.write (folder.child name) text = .ok d) :
    (writeFile folder name text).Completes p (folder.child name)
      { p with disk := d, written := p.written ++ [(folder.child name).text] } := by
  have written : (ofDisk (p.disk.write (folder.child name) text)).Completes p d p := by
    rw [h]
    rfl
  exact completes_bind.mpr ⟨p, p, rfl, completes_bind.mpr ⟨d, p, written, rfl⟩⟩

/-- A file that the disk takes is written, and comes last. -/
theorem Stage.write (stage : Stage disk files frozen p) {folder : Path} {name : String}
    (takes : disk.Takes (folder.child name)) (text : String) :
    ∃ q, (writeFile folder name text).Completes p (folder.child name) q ∧
      Stage disk (files ++ [(folder.child name, text)]) frozen q := by
  have still : p.disk.Takes (folder.child name) := Disk.takes_of_folders_eq stage.folders takes
  obtain ⟨d, hd⟩ := Disk.exists_write still text
  refine ⟨_, writeFile_completes_of hd, ?_, ?_, ?_, stage.frozen⟩
  · exact Disk.holds_of_write stage.holds hd
  · simp [stage.written]
  · exact (Disk.folders_of_write hd).trans stage.folders

end Stages

/-! ## Sources of classes -/

/-- The file of a source. -/
def sourceFile (c : Config) (source : Source.ClassSource) : Path × String :=
  (c.classDir.child (source.name ++ Disk.extension), source.text)

/-- The source of a class in an open registry. -/
def sourceOf (c : Config) (schema : Schema) (cls : ApiClass) : Except Fault Source.ClassSource :=
  (Source.ClassSource.ofClass (c.settings schema) cls).settled

section Classes

variable {c : Config} {schema : Schema} {disk : Disk} {files : List (Path × String)}
  {classes before : List ApiClass} {cls : ApiClass} {source : Source.ClassSource}
  {sources : List Source.ClassSource}

theorem classFile_completes_of (stage : Stage disk files false p)
    (takes : disk.Takes (sourceFile c source).1) (h : sourceOf c schema cls = .ok source) :
    ∃ q, (classFile c (c.settings schema) cls).Completes p () q ∧
      Stage disk (files ++ [sourceFile c source]) false q := by
  obtain ⟨p₁, emitted, same₁⟩ := emit_completes_of stage.frozen h
  obtain ⟨p₂, written, stage₂⟩ := (stage.of_alike same₁).write takes source.text
  obtain ⟨q, reported, same₂⟩ := report_completes_of .debug "sdkgen.class_generator"
    ("Wrote " ++ (sourceFile c source).1.text) p₂
  refine ⟨q, ?_, stage₂.of_alike same₂⟩
  exact completes_bind.mpr ⟨source, p₁, emitted, completes_bind.mpr ⟨_, p₂, written, reported⟩⟩

/-- A class without a source writes nothing. -/
theorem classFile_fails_of (stage : Stage disk files false p) (h : sourceOf c schema cls = .error fault) :
    ∃ q, (classFile c (c.settings schema) cls).Fails p fault q ∧ Stage disk files false q := by
  obtain ⟨q, emitted, same⟩ := emit_fails_of stage.frozen h
  exact ⟨q, fails_bind.mpr (Or.inl emitted), stage.of_alike same⟩

/-- Sources that the disk takes are written in the order of their classes. -/
theorem forM_completes_of (stage : Stage disk files false p)
    (takes : ∀ source ∈ sources, disk.Takes (sourceFile c source).1)
    (h : classes.mapM (sourceOf c schema) = .ok sources) :
    ∃ q, (classes.forM (classFile c (c.settings schema))).Completes p ⟨⟩ q ∧
      Stage disk (files ++ sources.map (sourceFile c)) false q := by
  have each := Except.mapM_eq_ok.mp h
  clear h
  induction each generalizing files p with
  | nil => exact ⟨p, rfl, by simpa using stage⟩
  | cons hsource _ ih =>
    obtain ⟨p₁, first, stage₁⟩ := classFile_completes_of stage (takes _ List.mem_cons_self) hsource
    obtain ⟨q, others, stage₂⟩ := ih stage₁ fun other hother =>
      takes other (List.mem_cons_of_mem _ hother)
    refine ⟨q, completes_bind.mpr ⟨(), p₁, first, others⟩, ?_⟩
    simpa using stage₂

/-- The first class without a source ends the run, and the sources in front of it are written. -/
theorem forM_fails_of {after : List ApiClass} (stage : Stage disk files false p)
    (takes : ∀ source ∈ sources, disk.Takes (sourceFile c source).1)
    (h : before.mapM (sourceOf c schema) = .ok sources)
    (failed : sourceOf c schema cls = .error fault) :
    ∃ q, ((before ++ cls :: after).forM (classFile c (c.settings schema))).Fails p fault q ∧
      Stage disk (files ++ sources.map (sourceFile c)) false q := by
  have each := Except.mapM_eq_ok.mp h
  clear h
  induction each generalizing files p with
  | nil =>
    obtain ⟨q, fails, stage₁⟩ := classFile_fails_of stage failed
    exact ⟨q, fails_bind.mpr (Or.inl fails), by simpa using stage₁⟩
  | cons hsource _ ih =>
    obtain ⟨p₁, first, stage₁⟩ := classFile_completes_of stage (takes _ List.mem_cons_self) hsource
    obtain ⟨q, fails, stage₂⟩ := ih stage₁ fun other hother =>
      takes other (List.mem_cons_of_mem _ hother)
    refine ⟨q, fails_bind.mpr (Or.inr ⟨(), p₁, first, fails⟩), ?_⟩
    simpa using stage₂

theorem stage_start (disk : Disk) : Stage disk [] false (Progress.start disk) :=
  ⟨Disk.holds_nil disk, rfl, rfl, rfl⟩

/-- The kinds of objects are registered in front of all classes. -/
theorem classes_fails_of_kinds (h : (objectKinds schema.classes).javaType.settled = .error fault) :
    ∃ q, (Run.classes c schema).Fails (Progress.start disk) fault q ∧ Stage disk [] false q := by
  obtain ⟨q, emitted, same⟩ := emit_fails_of (p := Progress.start disk) rfl h
  exact ⟨q, fails_bind.mpr (Or.inl emitted), (stage_start disk).of_alike same⟩

theorem classes_fails_of {name : String} {after : List ApiClass}
    (kinds : (objectKinds schema.classes).javaType.settled = .ok name)
    (split : schema.classes = before ++ cls :: after)
    (takes : ∀ source ∈ sources, disk.Takes (sourceFile c source).1)
    (h : before.mapM (sourceOf c schema) = .ok sources)
    (failed : sourceOf c schema cls = .error fault) :
    ∃ q, (Run.classes c schema).Fails (Progress.start disk) fault q ∧
      Stage disk (sources.map (sourceFile c)) false q := by
  obtain ⟨p₁, emitted, same⟩ := emit_completes_of (p := Progress.start disk) rfl kinds
  obtain ⟨q, fails, stage⟩ :=
    forM_fails_of ((stage_start disk).of_alike same) takes h failed
  rw [← split] at fails
  refine ⟨q, fails_bind.mpr (Or.inr ⟨name, p₁, emitted, ?_⟩), stage⟩
  exact fails_bind.mpr (Or.inl fails)

theorem classes_completes_of {name : String}
    (kinds : (objectKinds schema.classes).javaType.settled = .ok name)
    (takes : ∀ source ∈ sources, disk.Takes (sourceFile c source).1)
    (h : schema.classes.mapM (sourceOf c schema) = .ok sources) :
    ∃ q, (Run.classes c schema).Completes (Progress.start disk) () q ∧
      Stage disk (sources.map (sourceFile c)) false q := by
  obtain ⟨p₁, emitted, same₁⟩ := emit_completes_of (p := Progress.start disk) rfl kinds
  obtain ⟨p₂, written, stage⟩ := forM_completes_of ((stage_start disk).of_alike same₁) takes h
  obtain ⟨q, reported, same₂⟩ := report_completes_of .info "sdkgen.pipeline"
    ("Emitted " ++ LogLine.counted schema.classes.length "classes") p₂
  refine ⟨q, ?_, stage.of_alike same₂⟩
  exact completes_bind.mpr ⟨name, p₁, emitted, completes_bind.mpr ⟨⟨⟩, p₂, written, reported⟩⟩

end Classes

end Run

/-! ## Configurations whose files can be written -/

/-- A licence file that can be read, and nothing at the place of its copy. -/
structure Config.LicenceReady (c : Config) (disk : Disk) (file : Path) : Prop where
  readable : ∃ text, c.given.read file = .ok text
  /-- The output folder is there. -/
  output : ∃ out, disk.follow c.outputDir.start c.outputDir.parts = .ok out
  target : ∃ made, disk.make c.resourcesDir = .ok made ∧
    ∃ place, made.place (c.resourcesDir.child "LICENSE") = .ok place ∧ made.find? place = none

instance (c : Config) (disk : Disk) (file : Path) : Decidable (c.LicenceReady disk file) :=
  decidable_of_iff
    ((∃ text, c.given.read file = .ok text) ∧
      (∃ out, disk.follow c.outputDir.start c.outputDir.parts = .ok out) ∧
      ∃ made, disk.make c.resourcesDir = .ok made ∧
        ∃ place, made.place (c.resourcesDir.child "LICENSE") = .ok place ∧ made.find? place = none)
    ⟨fun h => ⟨h.1, h.2.1, h.2.2⟩, fun h => ⟨h.readable, h.output, h.target⟩⟩

/-- A configuration with the built-in templates whose files can all be written: the folder of the
sources can be made, which gives `disk`, and the names of the files are ones that it takes. -/
structure Config.Ready (c : Config) (schema : Schema) (disk : Disk) : Prop where
  builtIn : c.templates = none
  made : c.given.make c.classDir = .ok disk
  sources : ∀ cls ∈ schema.classes, ∀ name, cls.name = .text name →
    disk.Takes (c.classDir.child (Naming.classCase name ++ Disk.extension))
  shared : ∀ name ∈ ["Types", "APIVersion"],
    disk.Takes (c.classDir.child (name ++ Disk.extension))
  /-- The source that lists the releases needs texts for their names. -/
  codeNames : ∀ r ∈ schema.releases, r.codeName.isText = true
  licence : ∀ file ∈ c.licenceFile, c.LicenceReady disk file

instance (disk : Disk) (folder : Path) (cls : ApiClass) : Decidable (∀ name, cls.name = .text name →
    disk.Takes (folder.child (Naming.classCase name ++ Disk.extension))) :=
  match h : cls.name with
  | .text name =>
    decidable_of_iff (disk.Takes (folder.child (Naming.classCase name ++ Disk.extension))) (by simp)
  | .null | .bool _ | .integer _ | .real _ | .list _ | .object _ => .isTrue (by simp)

instance (c : Config) (schema : Schema) (disk : Disk) : Decidable (c.Ready schema disk) :=
  decidable_of_iff
    (c.templates = none ∧ c.given.make c.classDir = .ok disk ∧
      (∀ cls ∈ schema.classes, ∀ name, cls.name = .text name →
        disk.Takes (c.classDir.child (Naming.classCase name ++ Disk.extension))) ∧
      (∀ name ∈ ["Types", "APIVersion"], disk.Takes (c.classDir.child (name ++ Disk.extension))) ∧
      (∀ r ∈ schema.releases, r.codeName.isText = true) ∧
      ∀ file ∈ c.licenceFile, c.LicenceReady disk file)
    ⟨fun h => ⟨h.1, h.2.1, h.2.2.1, h.2.2.2.1, h.2.2.2.2.1, h.2.2.2.2.2⟩,
      fun h => ⟨h.builtIn, h.made, h.sources, h.shared, h.codeNames, h.licence⟩⟩

/-- A configuration with the built-in templates whose files can be written as far as the run gets:
nothing is asked of the releases of the schema. -/
structure Config.Writable (c : Config) (schema : Schema) (disk : Disk) : Prop where
  builtIn : c.templates = none
  made : c.given.make c.classDir = .ok disk
  sources : ∀ cls ∈ schema.classes, ∀ name, cls.name = .text name →
    disk.Takes (c.classDir.child (Naming.classCase name ++ Disk.extension))
  shared : ∀ name ∈ ["Types", "APIVersion"],
    disk.Takes (c.classDir.child (name ++ Disk.extension))
  licence : ∀ file ∈ c.licenceFile, c.LicenceReady disk file

theorem Config.Ready.writable {c : Config} {schema : Schema} {disk : Disk}
    (ready : c.Ready schema disk) : c.Writable schema disk :=
  ⟨ready.builtIn, ready.made, ready.sources, ready.shared, ready.licence⟩

instance {c : Config} {schema : Schema} {disk : Disk} :
    Coe (c.Ready schema disk) (c.Writable schema disk) :=
  ⟨Config.Ready.writable⟩

theorem Config.Writable.ready {c : Config} {schema : Schema} {disk : Disk}
    (writable : c.Writable schema disk)
    (codeNames : ∀ r ∈ schema.releases, r.codeName.isText = true) : c.Ready schema disk :=
  ⟨writable.builtIn, writable.made, writable.sources, writable.shared, codeNames, writable.licence⟩

namespace Run

section Shared

variable {c : Config} {schema : Schema} {disk : Disk} {files : List (Path × String)} {frozen : Bool}
  {p : Progress} {fault : Fault}

/-! ## Shared sources -/

theorem freeze_completes_of (stage : Stage disk files frozen p) :
    ∃ q, freeze.Completes p p.registry.freeze.2 q ∧ Stage disk files true q :=
  ⟨_, rfl, stage.holds, stage.written, stage.folders, rfl⟩

theorem templateFile_completes_of (builtIn : c.templates = none) (stage : Stage disk files frozen p)
    {template name text : String} {scope : Shared.Scope}
    (takes : disk.Takes (c.classDir.child (name ++ Disk.extension)))
    (h : fillTemplate template scope = .ok text) :
    ∃ q, (templateFile c template (name ++ Disk.extension) scope).Completes p () q ∧
      Stage disk (files ++ [(c.classDir.child (name ++ Disk.extension), text)]) frozen q := by
  have filled : (templateText c template scope).Completes p text p := by
    rw [templateText, builtIn]
    exact ofExcept_completes_of h p
  obtain ⟨p₁, written, stage₁⟩ := stage.write takes text
  obtain ⟨q, reported, same⟩ := report_completes_of .debug "sdkgen.renderer"
    ("Rendered " ++ template ++ " -> " ++ (c.classDir.child (name ++ Disk.extension)).text) p₁
  refine ⟨q, ?_, stage₁.of_alike same⟩
  exact completes_bind.mpr ⟨text, p, filled, completes_bind.mpr ⟨_, p₁, written, reported⟩⟩

/-! ### The licence -/

/-- The folder of the licence can still be made once the sources are written. -/
theorem exists_make_resources (ready : ∃ out, disk.follow c.outputDir.start c.outputDir.parts = .ok out)
    {made : Disk} (hmade : disk.make c.resourcesDir = .ok made) (stage : Stage disk files frozen p)
    (sources : Disk.AreSources files) :
    ∃ d, p.disk.make c.resourcesDir = .ok d ∧ d.folders = made.folders ∧ d.files = p.disk.files := by
  obtain ⟨out, there⟩ := ready
  have single : Path.ofText "resources" = ⟨"", ["resources"]⟩ := by decide
  have more : p.disk.Extends disk := Disk.extends_of_folders_eq stage.folders
  have still := Disk.follow_of_extends more there
  have forward : "resources" ≠ ".." := by decide
  obtain ⟨checked, cases⟩ := (Disk.make_child_eq_ok there single forward).mp hmade
  rcases cases with ⟨folder, same⟩ | ⟨nothing, short, same⟩
  · refine ⟨p.disk, (Disk.make_child_eq_ok still single forward).mpr ⟨checked, Or.inl ⟨?_, rfl⟩⟩,
      ?_, rfl⟩
    · exact more _ folder
    · rw [same]
      exact stage.folders
  · obtain ⟨free, clear⟩ := Disk.find?_eq_none_iff.mp nothing
    -- No source stands in the way of the folder: its name has another end.
    have other : ∀ start, (out.below "resources").text ≠ start ++ Disk.extension :=
      Disk.text_below_ne (c := 's') (by decide) (by decide)
    have vacant : p.disk.find? (out.below "resources") = none := by
      refine Disk.find?_eq_none_iff.mpr ⟨?_, ?_⟩
      · exact Disk.find?_ne_folder_of_folders_eq stage.folders free
      · rw [Disk.get?_of_holds_sources stage.holds sources other]
        exact clear
    refine ⟨_, (Disk.make_child_eq_ok still single forward).mpr
      ⟨checked, Or.inr ⟨vacant, short, rfl⟩⟩, ?_, rfl⟩
    rw [same, stage.folders]

/-- What a run has done when it is over. -/
structure Leaves (disk : Disk) (files : List (Path × String)) (frozen : Bool) (p : Progress) :
    Prop where
  holds : p.disk.Holds disk.files files
  written : p.written = files.map fun f => f.1.text
  frozen : p.registry.frozen = frozen

theorem Stage.leaves (stage : Stage disk files frozen p) : Leaves disk files frozen p :=
  ⟨stage.holds, stage.written, stage.frozen⟩

/-- The copy of the licence file, if there is one to copy: it has the text of the file. -/
def LicenceCopy (c : Config) (disk : Disk) (copies : List (Path × String)) : Prop :=
  match c.licenceFile with
  | none => copies = []
  | some file => ∃ text, disk.read file = .ok text ∧
    copies = [(c.resourcesDir.child "LICENSE", text)]

theorem makeFolder_completes_of {folder : Path} {d : Disk} (h : p.disk.make folder = .ok d) :
    (makeFolder folder).Completes p () { p with disk := d } := by
  have made : (ofDisk (p.disk.make folder)).Completes p d p := by
    rw [h]
    rfl
  exact completes_bind.mpr ⟨p, p, rfl, completes_bind.mpr ⟨d, p, made, rfl⟩⟩

/-- The licence file is still there once the sources are written, and can be copied. -/
theorem exists_licence_copy (made : c.given.make c.classDir = .ok disk) {file : Path}
    (ready : c.LicenceReady disk file) (stage : Stage disk files frozen p)
    (sources : Disk.AreSources files) :
    ∃ d e text, p.disk.make c.resourcesDir = .ok d ∧
      d.isSame file (c.resourcesDir.child "LICENSE") = false ∧ d.read file = .ok text ∧
      d.write (c.resourcesDir.child "LICENSE") text = .ok e ∧ e.read file = .ok text ∧
      e.Holds disk.files (files ++ [(c.resourcesDir.child "LICENSE", text)]) := by
  obtain ⟨⟨given, readable⟩, output, folder, hfolder, target, htarget, nothing⟩ := ready
  obtain ⟨d, hd, folders, same⟩ := exists_make_resources output hfolder stage sources
  have more : d.Extends disk :=
    (Disk.extends_of_folders_eq folders).trans (Disk.extends_of_make hfolder)
  have read : ∃ text, d.read file = .ok text := by
    obtain ⟨place, hplace, old⟩ := Disk.read_eq_ok.mp readable
    have kept := Disk.find?_file_of_make made old
    -- A source may have taken the place of the file, and is a file, too.
    obtain ⟨text, now⟩ := Disk.exists_file_of_holds stage.folders stage.holds kept
    refine ⟨text, Disk.read_eq_ok.mpr ⟨place, ?_, Disk.find?_file_of_make hd now⟩⟩
    exact Disk.place_of_extends (more.trans (Disk.extends_of_make made)) hplace
  obtain ⟨text, htext⟩ := read
  have there : d.place (c.resourcesDir.child "LICENSE") = .ok target :=
    Disk.place_of_extends (Disk.extends_of_folders_eq folders) htarget
  have vacant : d.find? target = none := by
    obtain ⟨free, clear⟩ := Disk.find?_eq_none_iff.mp nothing
    have last : (c.resourcesDir.child "LICENSE").parts.getLast? = some "LICENSE" := by
      have single : Path.ofText "LICENSE" = ⟨"", ["LICENSE"]⟩ := by decide
      simp [Path.child, Path.join, single]
    obtain ⟨here, _, below⟩ := Disk.exists_below_of_place last (by decide) there
    have other : ∀ start, (here.below "LICENSE").text ≠ start ++ Disk.extension :=
      Disk.text_below_ne (c := 'E') (by decide) (by decide)
    have unwritten : p.disk.files.get? target.text = disk.files.get? target.text :=
      Disk.get?_of_holds_sources stage.holds sources (below ▸ other)
    refine Disk.find?_eq_none_iff.mpr ⟨Disk.find?_ne_folder_of_folders_eq folders free, ?_⟩
    rw [same, unwritten, ← Disk.files_of_make hfolder]
    exact clear
  have apart : d.isSame file (c.resourcesDir.child "LICENSE") = false := by
    obtain ⟨place, hplace, old⟩ := Disk.read_eq_ok.mp htext
    have different : place ≠ target := by
      rintro rfl
      rw [vacant] at old
      simp at old
    simp [Disk.isSame, hplace, there, different]
  have takes : d.Takes (c.resourcesDir.child "LICENSE") := by
    refine ⟨target, there, ?_⟩
    rw [vacant]
    simp
  obtain ⟨e, he⟩ := Disk.exists_write takes text
  have held : d.Holds disk.files files :=
    Disk.holds_of_extends (Disk.extends_of_make hd) same stage.holds
  exact ⟨d, e, text, hd, apart, htext, he, Disk.read_of_write htext he there vacant,
    Disk.holds_of_write held he⟩

theorem licence_completes_of (made : c.given.make c.classDir = .ok disk)
    (ready : ∀ file ∈ c.licenceFile, c.LicenceReady disk file)
    (stage : Stage disk files frozen p) (sources : Disk.AreSources files) :
    ∃ q copies, (licence c).Completes p () q ∧ Leaves disk (files ++ copies) frozen q ∧
      LicenceCopy c q.disk copies := by
  unfold licence LicenceCopy
  cases hfile : c.licenceFile with
  | none => exact ⟨p, [], rfl, by simpa using stage.leaves, rfl⟩
  | some file =>
    obtain ⟨d, e, text, hd, apart, read, written, kept, holds⟩ :=
      exists_licence_copy made (ready file hfile) stage sources
    let after : Progress := { p with
      disk := e, written := p.written ++ [(c.resourcesDir.child "LICENSE").text] }
    have found : (ofDisk (d.read file)).Completes { p with disk := d } text { p with disk := d } := by
      rw [read]
      rfl
    have copied : (writeFile c.resourcesDir "LICENSE" text).Completes { p with disk := d }
        (c.resourcesDir.child "LICENSE") after := writeFile_completes_of written
    refine ⟨after, [(c.resourcesDir.child "LICENSE", text)], ?_, ⟨holds, ?_, stage.frozen⟩, text,
      kept, rfl⟩
    · refine completes_bind.mpr ⟨(), _, makeFolder_completes_of hd, ?_⟩
      refine completes_bind.mpr ⟨_, _, rfl, ?_⟩
      simp only [apart]
      refine completes_bind.mpr ⟨text, _, found, ?_⟩
      exact completes_bind.mpr ⟨_, after, copied, rfl⟩
    · simp [after, stage.written]

/-! ### All of them -/

/-- The files of the shared sources, and the copy of the licence file. -/
def SharedFiles (c : Config) (schema : Schema) (summary : Summary) (disk : Disk)
    (files : List (Path × String)) : Prop :=
  ∃ types scope releases copies,
    fillTemplate "Types.java.jinja" (sharedScope c ++ summary.declarations.members) = .ok types ∧
    releasesScope c schema = .ok scope ∧
    fillTemplate "APIVersion.java.jinja" scope = .ok releases ∧
    LicenceCopy c disk copies ∧
    files = [(c.classDir.child "Types.java", types), (c.classDir.child "APIVersion.java", releases)] ++
      copies

/-- What cannot be declared ends the run before a shared source is written. -/
theorem shared_fails_of (stage : Stage disk files frozen p)
    (h : Shared.declarations p.registry.freeze.2 schema.errors = .error fault) :
    ∃ q, (shared c schema).Fails p fault q ∧ Stage disk files true q := by
  obtain ⟨q, froze, stage₁⟩ := freeze_completes_of stage
  refine ⟨q, fails_bind.mpr (Or.inr ⟨_, q, froze, ?_⟩), stage₁⟩
  exact fails_bind.mpr (Or.inl (ofExcept_fails_of h q))

/-- A release without a text for its name ends the run behind the first shared source. -/
theorem shared_fails_of_releases (writable : c.Writable schema disk) (stage : Stage disk files frozen p)
    {d : Shared.Declarations} (h : Shared.declarations p.registry.freeze.2 schema.errors = .ok d)
    (failed : releasesScope c schema = .error fault) :
    ∃ q types, (Run.shared c schema).Fails p fault q ∧
      Stage disk (files ++ [(c.classDir.child ("Types" ++ Disk.extension), types)]) true q := by
  obtain ⟨types, htypes⟩ := fillTemplate_types c d
  obtain ⟨p₁, froze, stage₁⟩ := freeze_completes_of stage
  obtain ⟨p₂, reported, same⟩ := report_completes_of .debug "sdkgen.marshal_generator"
    ("Generated " ++ LogLine.counted d.types.length "marshal functions") p₁
  obtain ⟨q, first, stage₃⟩ := templateFile_completes_of writable.builtIn (stage₁.of_alike same)
    (writable.shared "Types" (by simp)) htypes
  refine ⟨q, types, fails_bind.mpr (Or.inr ⟨_, p₁, froze, ?_⟩), stage₃⟩
  refine fails_bind.mpr (Or.inr ⟨d, p₁, ofExcept_completes_of h p₁, ?_⟩)
  refine fails_bind.mpr (Or.inr ⟨(), p₂, reported, ?_⟩)
  refine fails_bind.mpr (Or.inr ⟨(), q, first, ?_⟩)
  exact fails_bind.mpr (Or.inl (ofExcept_fails_of failed q))

/-- Once everything is declared, nothing stands in the way of the shared sources. -/
theorem shared_completes_of (ready : c.Ready schema disk) (stage : Stage disk files frozen p)
    (sources : Disk.AreSources files) {d : Shared.Declarations}
    (h : Shared.declarations p.registry.freeze.2 schema.errors = .ok d) :
    ∃ q shared, (Run.shared c schema).Completes p ⟨p.registry.freeze.2, d⟩ q ∧
      SharedFiles c schema ⟨p.registry.freeze.2, d⟩ q.disk shared ∧
      Leaves disk (files ++ shared) true q := by
  obtain ⟨types, htypes⟩ := fillTemplate_types c d
  obtain ⟨scope, hscope⟩ := exists_releasesScope c ready.codeNames
  obtain ⟨releases, hreleases⟩ := fillTemplate_releases hscope
  obtain ⟨p₁, froze, stage₁⟩ := freeze_completes_of stage
  obtain ⟨p₂, reported, same⟩ := report_completes_of .debug "sdkgen.marshal_generator"
    ("Generated " ++ LogLine.counted d.types.length "marshal functions") p₁
  obtain ⟨p₃, first, stage₃⟩ := templateFile_completes_of ready.builtIn (stage₁.of_alike same)
    (ready.shared "Types" (by simp)) htypes
  obtain ⟨p₄, second, stage₄⟩ := templateFile_completes_of ready.builtIn stage₃
    (ready.shared "APIVersion" (by simp)) hreleases
  have all := Disk.areSources_append
    (Disk.areSources_append sources (Disk.areSources_singleton c.classDir "Types" types))
    (Disk.areSources_singleton c.classDir "APIVersion" releases)
  obtain ⟨q, copies, copied, leaves, copy⟩ :=
    licence_completes_of ready.made ready.licence stage₄ all
  refine ⟨q, _, ?_, ⟨types, scope, releases, copies, htypes, hscope, hreleases, copy, rfl⟩, ?_⟩
  · refine completes_bind.mpr ⟨_, p₁, froze, ?_⟩
    refine completes_bind.mpr ⟨d, p₁, ofExcept_completes_of h p₁, ?_⟩
    refine completes_bind.mpr ⟨(), p₂, reported, ?_⟩
    refine completes_bind.mpr ⟨(), p₃, first, ?_⟩
    refine completes_bind.mpr ⟨scope, p₃, ofExcept_completes_of hscope p₃, ?_⟩
    refine completes_bind.mpr ⟨(), p₄, second, ?_⟩
    exact completes_bind.mpr ⟨(), q, copied, rfl⟩
  · have joined : files ++ ([(c.classDir.child "Types.java", types),
        (c.classDir.child "APIVersion.java", releases)] ++ copies) =
          files ++ [(c.classDir.child ("Types" ++ Disk.extension), types)] ++
            [(c.classDir.child ("APIVersion" ++ Disk.extension), releases)] ++ copies := by
      simp [Disk.extension]
    rw [joined]
    exact leaves

end Shared

end Run
end ClientBindings
