import ClientBindings.Config
import ClientBindings.Log
import ClientBindings.Shared.Entry
import ClientBindings.Shared.ReleasesUnit
import ClientBindings.Shared.TypesUnit

/-!
# Run — from a schema to the files of a client library

A run writes the source of each class and fills the registry on the way.  Then the registry is
frozen, and the shared sources are written from its snapshot alone.  A run that fails leaves the
files it has written.  Half of a surrogate pair is in no text, neither in one of the schema nor in
one of the configuration: no file in UTF-8 can hold it.

* `Progress` — the registry, the disk and the log of a run so far;
* `Run` — a step of a run: it may fail, and what it did before stays done;
* `Run.classes`, `Run.shared` — the two phases;
* `run` — the outcome.
-/

namespace ClientBindings

structure Progress where
  registry : Registry
  disk : Disk
  /-- Paths of the files as they were written, in order. -/
  written : List String
  log : List LogLine

namespace Progress

def start (given : Disk) : Progress :=
  ⟨Registry.empty, given, [], []⟩

def report (p : Progress) (lines : List LogLine) : Progress :=
  { p with log := p.log ++ lines }

end Progress

abbrev Run := ExceptT Fault (StateM Progress)

/-- What a completed run hands back besides its files. -/
structure Summary where
  snapshot : Snapshot
  declarations : Shared.Declarations

namespace Run

def report (level : Level) (part text : String) : Run Unit :=
  modify fun p => p.report [⟨level, part, text⟩]

/-- Enter what an emission met, and go on with its value. -/
def emit {α : Type} (m : Emission α) : Run α :=
  ExceptT.mk fun p =>
    let s := p.registry.settle m
    (s.result, { p with registry := s.registry }.report (s.met.filterMap Encounter.logLine?))

/-- Go on with a value, or fail. -/
def ofExcept {α : Type} (result : Except Fault α) : Run α :=
  ExceptT.mk fun p => (result, p)

/-- Go on with what the disk answers, or fail. -/
def ofDisk {α : Type} (result : Except DiskFault α) : Run α :=
  ofExcept (result.mapError .disk)

/-- Make a folder and those that lead to it. -/
def makeFolder (folder : Path) : Run Unit := do
  let disk ← ofDisk ((← get).disk.make folder)
  modify fun p => { p with disk }

/-- Write a file into a folder.  A name with slashes in it may point elsewhere, and the folder that
it points to has to be there.  The text is made up of whole characters, so a file can hold it. -/
def writeFile (folder : Path) (name text : String) : Run Path := do
  let path := folder.child name
  let disk ← ofDisk ((← get).disk.write path text)
  modify fun p => { p with disk, written := p.written ++ [path.text] }
  return path

/-! ## Class sources -/

def classFile (c : Config) (s : Settings) (cls : ApiClass) : Run Unit := do
  let source ← emit (Source.ClassSource.ofClass s cls)
  let path ← writeFile c.classDir (source.name ++ ".java") source.text
  report .debug "sdkgen.class_generator" ("Wrote " ++ path.text)

/-- The sources of all classes.  The enumeration of object kinds is registered first. -/
def classes (c : Config) (schema : Schema) : Run Unit := do
  let _ ← emit (objectKinds schema.classes).javaType
  schema.classes.forM (classFile c (c.settings schema))
  report .info "sdkgen.pipeline" ("Emitted " ++ LogLine.counted schema.classes.length "classes")

/-! ## Shared sources -/

def freeze : Run Snapshot := do
  let p ← get
  let (registry, snapshot) := p.registry.freeze
  set { p with registry := registry }
  report .debug "sdkgen.context" ("Froze context: " ++
    Text.joined ", " [LogLine.counted snapshot.types.length "types",
      LogLine.counted snapshot.enums.length "enums",
      LogLine.counted snapshot.records.length "records"])
  return snapshot

/-- Names of the templates, with their pieces. -/
def templates : Table (List Shared.Piece) :=
  [("Types.java.jinja", Shared.TypesUnit.template),
    ("APIVersion.java.jinja", Shared.ReleasesUnit.template)]

/-- The name that a template has for itself. -/
def ownName : String := "self"

/-- The text of a template, by its name.  A name is read as a path, so it may hold slashes and
single dots that lead nowhere. -/
def fillTemplate (name : String) (scope : Shared.Scope) : Except Fault String :=
  match templates.get? (Text.joined "/" (Path.ofText name).parts) with
  | some pieces =>
    if Table.has scope ownName then .error .reservedName else Shared.fillAll scope pieces
  | none => .error .templateNotFound

/-- The text of a template: of the built-in one, or of the one in a folder of the disk. -/
def templateText (c : Config) (name : String) (scope : Shared.Scope) : Run String := do
  match c.templates with
  | none => ofExcept (fillTemplate name scope)
  | some given => ofExcept (given.engine (← get).disk given.folder name scope)

def sharedScope (c : Config) : Shared.Scope :=
  [("licence", .text c.licenceHeader), ("java_package", .text c.package)]

/-- A release as a template sees it.  Its code name has to be a text. -/
def releaseValue (r : Release) : Except Fault Json := do
  return .object [("name_uppercase", .text (Naming.constantCase (← r.codeName.asText))),
    ("version", .text r.version), ("branding", r.branding)]

def releasesScope (c : Config) (schema : Schema) : Except Fault Shared.Scope := do
  return sharedScope c ++ [("releases", .list (← schema.releases.mapM releaseValue))]

def templateFile (c : Config) (template file : String) (scope : Shared.Scope) : Run Unit := do
  let text ← templateText c template scope
  let path ← writeFile c.classDir file text
  report .debug "sdkgen.renderer" ("Rendered " ++ template ++ " -> " ++ path.text)

/-- Copy the licence file, if there is one to copy. -/
def licence (c : Config) : Run Unit := do
  match c.licenceFile with
  | none => pure ()
  | some file =>
    makeFolder c.resourcesDir
    let disk := (← get).disk
    if disk.isSame file (c.resourcesDir.child "LICENSE") then throw (.disk .sameFile)
    let text ← ofDisk (disk.read file)
    let _ ← writeFile c.resourcesDir "LICENSE" text

/-- The shared sources, from the snapshot of a registry that is frozen now. -/
def shared (c : Config) (schema : Schema) : Run Summary := do
  let snapshot ← freeze
  -- Everything is declared before anything is written.
  let declarations ← ofExcept (Shared.declarations snapshot schema.errors)
  report .debug "sdkgen.marshal_generator"
    ("Generated " ++ LogLine.counted declarations.types.length "marshal functions")
  templateFile c "Types.java.jinja" "Types.java" (sharedScope c ++ declarations.members)
  templateFile c "APIVersion.java.jinja" "APIVersion.java" (← ofExcept (releasesScope c schema))
  licence c
  return ⟨snapshot, declarations⟩

def all (c : Config) (schema : Schema) : Run Summary := do
  classes c schema
  shared c schema

end Run

/-! ## Outcome -/

structure Outcome where
  result : Except Fault Summary
  progress : Progress

namespace Outcome

/-- What the log says at the end of a run that completed. -/
def summaryLine (written : List String) (d : Shared.Declarations) : LogLine :=
  ⟨.info, "sdkgen.pipeline", "Generated " ++ LogLine.counted written.length "files: " ++
    Text.joined ", " [LogLine.counted d.types.length "types",
      LogLine.counted d.enums.length "enums", LogLine.counted d.errors.length "errors"]⟩

/-- What the log says at the end of a run that failed. -/
def failureLines (written : List String) : List LogLine :=
  ⟨.error, "sdkgen.pipeline", "Generation failed; " ++
    LogLine.counted written.length "files were already written"⟩ ::
  written.map fun path => ⟨.debug, "sdkgen.pipeline", "Left in place: " ++ path⟩

end Outcome

/-- Outcome of the run over a schema.  The folder of the sources is made in front of the run: where
that fails nothing has begun, and there is nothing to report. -/
def run (c : Config) (schema : Schema) : Outcome :=
  match c.given.make c.classDir with
  | .error fault => ⟨.error (.disk fault), Progress.start c.given⟩
  | .ok disk =>
    match (Run.all c schema).run.run (Progress.start disk) with
    | (.ok summary, p) =>
      ⟨.ok summary, p.report [Outcome.summaryLine p.written summary.declarations]⟩
    | (.error fault, p) => ⟨.error fault, p.report (Outcome.failureLines p.written)⟩

end ClientBindings
