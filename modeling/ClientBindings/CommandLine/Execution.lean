import ClientBindings.CommandLine.Arguments
import ClientBindings.Run
import ClientBindings.Schema.Text

/-!
# Execution — what a command line does

* `Notations` — what is read by others;
* `Request.plan` — the configuration and the schema of the run that a request asks for;
* `Report` — what the program has to show for a command line;
* `execute` — the report of a request over the disk that is there.

A fault that lies in the schema is logged, and the exit code is 1.  Any other fault ends the program
without an exit code of its own.
-/

namespace ClientBindings
namespace CommandLine

/-- What is read by others: documents in YAML, and the templates of a folder. -/
structure Notations where
  yaml : YamlReader
  templates : TemplateEngine

/-- A value of an option, or the fault of an option that has none. -/
def present {α : Type} (fault : Fault) : Option α → Except Fault α
  | some value => .ok value
  | none => .error fault

/-- The schema in a file of the disk.  Its releases have to be known by names. -/
def readSchema (yaml : YamlReader) (disk : Disk) (file : String) : Except Fault Schema := do
  let text ← (disk.read (.ofText file)).mapError .disk
  let schema ← Schema.ofText yaml (.ofText file) text
  let _ ← Release.table schema.releases
  return schema

/-- Overrides of a request.  One that is given comes before a built-in one. -/
def Request.allOverrides (r : Request) : Except Fault Overrides := do
  let given ← r.overrides.mapM (present .missingOverride)
  return given.foldl (fun t o => t.insert o.1 o.2) Config.defaultOverrides

/-- The configuration and the schema of the run that a request asks for. -/
def Request.plan (n : Notations) (r : Request) (file : String) (given : Disk) :
    Except Fault (Config × Schema) := do
  let outputDir ← present .missingOutput r.outputDir
  let overrides ← r.allOverrides
  let schema ← readSchema n.yaml given file
  -- The package is not missed before the schema has been read.
  let package ← present .textExpected r.package
  let config : Config := {
    outputDir := .ofText outputDir
    package, overrides, given
    licenceHeader := Config.defaultHeader
    templates := if r.templates = "" then none else some ⟨.ofText r.templates, n.templates⟩
    licenceFile := if r.license = "" then none else some (.ofText r.license)
  }
  return (config, schema)

/-- What the program has to show. -/
structure Report where
  /-- The exit code, or the fault that ended the program. -/
  exit : Except Fault Nat
  /-- Paths of the files of a completed run. -/
  generated : List String
  log : List LogLine
  disk : Disk

namespace Report

/-- A report of a run that failed. -/
def failed (fault : Fault) (log : List LogLine) (disk : Disk) : Report :=
  if fault.isReported then ⟨.ok 1, [], log ++ [⟨.error, "sdkgen", fault.message⟩], disk⟩
  else ⟨.error fault, [], log, disk⟩

/-- Lines that a printed text takes up.  Only a line feed ends one. -/
def printedLines (text : String) : List String :=
  (text.toList.splitOn '\n').map String.ofList

/-- Lines that a completed run prints in front of the time it took. -/
def generatedLines (r : Report) : List String :=
  r.generated.flatMap fun path => printedLines ("Generated: " ++ path)

/-- Lines of the log that are shown. -/
def logLines (r : Report) (verbose : Bool) : List String :=
  (r.log.filter fun l => verbose || l.level ≠ .debug).flatMap fun l => printedLines l.shown

end Report

/-- The time a run took, as it prints it. -/
def completedLine (milliseconds : String) : String :=
  "Generation completed in " ++ milliseconds ++ " ms"

/-- Run over a schema file of the disk. -/
def execute (n : Notations) (r : Request) (file : String) (given : Disk) : Report :=
  match r.plan n file given with
  | .error fault => .failed fault [] given
  | .ok (config, schema) =>
    let outcome := run config schema
    match outcome.result with
    | .error fault => .failed fault outcome.progress.log outcome.progress.disk
    | .ok _ => ⟨.ok 0, outcome.progress.written, outcome.progress.log, outcome.progress.disk⟩

/-- What a command line asks for: help, or a run over a schema file. -/
inductive Task where
  | help
  | generate (request : Request) (file : String)

/-- The task of a command line. -/
def Task.ofArguments (arguments : List String) : Except UsageFault Task := do
  let request ← Request.ofArguments arguments
  if request.help then return .help
  match request.schemaFile? with
  | some file => return .generate request file
  | none => throw .missingSchema

/-- What the program prints when its usage is wrong. -/
def usageLine (fault : UsageFault) : String :=
  "generate_sdk.py: error: " ++ fault.message

end CommandLine
end ClientBindings
