import ClientBindings.CommandLine.Execution

/-!
# Main — the program

Reads the schema file, the licence file and the templates, runs, and puts the files of the report on
disk.  Every decision is made by `CommandLine.Task.ofArguments` and `CommandLine.execute`.
-/

namespace ClientBindings
namespace Main

/-- A file with its contents, if it can be read. -/
def readFile (path : Path) : IO (Table String) := do
  try
    return [(path.text, ← IO.FS.readFile path.text)]
  catch _ =>
    return []

/-- The files that a request names. -/
def readFiles (request : CommandLine.Request) (file : String) : IO (Table String) := do
  let folder := Path.ofText request.templates
  let templates := Run.templates.names.map folder.child
  let files ← (.ofText file :: .ofText request.license :: templates).mapM readFile
  return files.flatten

/-- Whether a template has a place to be filled in, or a block. -/
def hasHole (text : String) : Bool :=
  (text.toList.zip text.toList.tail).any fun (c, d) => c = '\x7b' && d ∈ ['\x7b', '%', '#']

/-- This program reads no YAML, and fills in no templates but the built-in ones: those of a folder
have to be fixed text. -/
def notations : CommandLine.Notations where
  yaml := fun _ => none
  templates := fun disk folder name _ =>
    match disk.read (folder.child name) with
    | .ok text => if hasHole text then .error .brokenTemplate else .ok (Text.unified text)
    | .error _ => .error .templateNotFound

/-- Put a file on disk, with the folders that lead to it. -/
def writeFile (path text : String) : IO Unit := do
  let p := Path.ofText path
  IO.FS.createDirAll (Path.text ⟨p.root, p.parts.dropLast⟩)
  IO.FS.writeFile path text

/-- Milliseconds with two decimals. -/
def milliseconds (nanoseconds : Nat) : String :=
  let hundredths := nanoseconds / 10000
  let decimals := toString (hundredths % 100)
  toString (hundredths / 100) ++ "." ++ (if decimals.length = 1 then "0" else "") ++ decimals

def helpLines : List String :=
  ["usage: generate_sdk.py [options] [schema_file]",
    "",
    "Generate a Java SDK from an API datamodel",
    "",
    "  --schema FILE               schema file, if none is given on its own",
    "  --output-dir, -o FOLDER     output folder",
    "  --java-package NAME         package of the generated classes",
    "  --templates FOLDER          folder of the templates of the shared sources",
    "  --license FILE              licence file that is copied to the output",
    "  --enum-default ENUM=MEMBER  default member of an enumeration",
    "  --verbose, -v               show the whole log"]

/-- Run over a schema file and show the report. -/
def generate (request : CommandLine.Request) (file : String) : IO UInt32 := do
  let start ← IO.monoNanosNow
  let given := Disk.ofFiles (← readFiles request file)
  let report := CommandLine.execute notations request file given
  for (path, text) in report.disk.files do
    -- Files that were only read stay as they are.
    if given.files.get? path ≠ some text then
      writeFile path text
  for line in report.logLines request.verbose do
    IO.eprintln line
  match report.exit with
  | .ok 0 =>
    for line in report.generatedLines do
      IO.println line
    IO.println (CommandLine.completedLine (milliseconds ((← IO.monoNanosNow) - start)))
    return 0
  | .ok code => return code.toUInt32
  | .error fault =>
    IO.eprintln fault.message
    return 1

end Main
end ClientBindings

def main (arguments : List String) : IO UInt32 := do
  match ClientBindings.CommandLine.Task.ofArguments arguments with
  | .error fault =>
    IO.eprintln (ClientBindings.CommandLine.usageLine fault)
    return 2
  | .ok .help =>
    for line in ClientBindings.Main.helpLines do
      IO.println line
    return 0
  | .ok (.generate request file) => ClientBindings.Main.generate request file
