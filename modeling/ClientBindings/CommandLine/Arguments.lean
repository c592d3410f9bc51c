import ClientBindings.CommandLine.Option
import ClientBindings.Config
import ClientBindings.Text.Quoted

/-!
# Arguments — what the command line asks for

* `Request` — the values of all options;
* `Arguments.ofWords` — the request of the arguments in front of a `--`, after which every argument
  is plain;
* `Request.ofArguments` — the request of a command line, or why there is none.
-/

namespace ClientBindings
namespace CommandLine

/-- Values of the options, and the arguments that nothing asked for. -/
structure Request where
  /-- The schema file: the first plain argument. -/
  file : Option String
  fileTaken : Bool
  /-- Whether the argument read last is the schema file. -/
  atFile : Bool
  schema : Option String
  /-- The output folder, unless its option has been given without a text. -/
  outputDir : Option String
  /-- The package, unless its option has been given without a text. -/
  package : Option String
  templates : String
  license : String
  /-- Overrides, and nothing for each that has been given without a text. -/
  overrides : List (Option (String × String))
  verbose : Bool
  help : Bool
  extras : List String

namespace Request

def start : Request where
  file := none
  fileTaken := false
  atFile := false
  schema := none
  outputDir := some "generated"
  package := some Config.defaultPackage
  templates := ""
  license := ""
  overrides := []
  verbose := false
  help := false
  extras := []

/-- A plain argument: the schema file, or one too many. -/
def plain (r : Request) (argument : String) : Request :=
  if r.fileTaken then { r with extras := r.extras ++ [argument], atFile := false }
  else { r with file := some argument, fileTaken := true, atFile := true }

/-- An argument that nothing asks for. -/
def extra (r : Request) (argument : String) : Request :=
  { r with extras := r.extras ++ [argument], atFile := false }

/-- An override, as `ENUM=MEMBER` with neither of them empty. -/
def override? (text : String) : Option (String × String) :=
  match cutAtSign text.toList with
  | some (name, member) =>
    if name = [] ∨ member = [] then none else some (.ofList name, .ofList member)
  | none => none

/-- Enter an option that is given with nothing for its value. -/
def giveNothing (r : Request) (o : Opt) : Request :=
  let r := { r with atFile := false }
  match o with
  | .schema => { r with schema := none }
  | .outputDir => { r with outputDir := none }
  | .package => { r with package := none }
  | .templates => { r with templates := "" }
  | .license => { r with license := "" }
  | .enumDefault => { r with overrides := r.overrides ++ [none] }
  | .help | .verbose => r

/-- Enter an option with a text for its value. -/
def giveText (r : Request) (o : Opt) (value : String) : Except UsageFault Request :=
  let r := { r with atFile := false }
  match o with
  | .schema => .ok { r with schema := some value }
  | .outputDir => .ok { r with outputDir := some value }
  | .package => .ok { r with package := some value }
  | .templates => .ok { r with templates := value }
  | .license => .ok { r with license := value }
  | .enumDefault =>
    match override? value with
    | some entry => .ok { r with overrides := r.overrides ++ [some entry] }
    | none => .error (.badOverride value)
  | .help | .verbose => .ok r

/-- Give an option its value.  The mark `--` stands for no value. -/
def give (r : Request) (o : Opt) (value : String) : Except UsageFault Request :=
  if value = "--" then .ok (r.giveNothing o) else r.giveText o value

/-- Set an option that takes no value. -/
def set (r : Request) : Opt → Request
  | .help => { r with help := true, atFile := false }
  | .verbose => { r with verbose := true, atFile := false }
  | _ => { r with atFile := false }

end Request

/-! ## Options -/

/-- Options that one argument spells: those without a value in front, and what remains. -/
inductive Cluster where
  /-- All of them are set. -/
  | flags (opts : List Opt)
  /-- The last one has a value. -/
  | valued (opts : List Opt) (last : Opt) (value : String)
  /-- The last one has its value in the next argument. -/
  | waiting (opts : List Opt) (last : Opt)

namespace Cluster

/-- Options of a cluster from the short option `o` on, with what follows it. -/
def ofShort (done : List Opt) (o : Opt) : List Char → Except UsageFault Cluster
  | [] => .ok (if o.takesValue then waiting done o else flags (done ++ [o]))
  | c :: rest =>
    if o.takesValue then .ok (valued done o (.ofList (c :: rest)))
    else
      match Opt.ofSpelling? (.ofList ['-', c]) with
      | some next => ofShort (done ++ [o]) next rest
      | none => .error (.uselessValue o (Text.quoted (.ofList (c :: rest))))

/-- Options of a spelling.  Only short options stand side by side, and the attached text is not
empty then. -/
def ofSpelling (s : Spelling) : Except UsageFault Cluster :=
  match s.attached with
  | none => ofShort [] s.opt []
  | some text =>
    if s.opt.takesValue then .ok (valued [] s.opt (.ofList text))
    else if s.isShort && text ≠ [] then ofShort [] s.opt text
    else .error (.uselessValue s.opt (Text.quoted (.ofList text)))

end Cluster

/-- Set the flags of a cluster, up to the one that asks for help. -/
def setAll (r : Request) (opts : List Opt) : Request :=
  opts.foldl (fun r o => if r.help then r else r.set o) r

/-! ## Arguments -/

namespace Arguments

/-- Enter the arguments in front of a `--`, one by one; an option without a value takes the next
plain argument.  A request for help ends the reading. -/
def ofWords (r : Request) : List Word → Except UsageFault Request
  | [] => .ok r
  | .plain argument :: rest => ofWords (r.plain argument) rest
  | .unknown argument :: rest => ofWords (r.extra argument) rest
  | .option spelling :: rest => do
    match ← Cluster.ofSpelling spelling with
    | .flags opts =>
      let r := setAll r opts
      if r.help then return r else ofWords r rest
    | .valued opts last value =>
      let r := setAll r opts
      if r.help then return r else ofWords (← r.give last value) rest
    | .waiting opts last =>
      -- The value of an option never looks like an option.
      match rest with
      | .plain value :: rest =>
        let r := setAll r opts
        if r.help then return r else ofWords (← r.give last value) rest
      | _ => throw (.missingValue last)

/-- Enter what follows the first `--`.  The mark itself is taken along with the schema file if the
two stand side by side, and is one argument too many otherwise. -/
def afterMark (r : Request) (rest : List String) : Request :=
  if r.fileTaken then { r with extras := r.extras ++ (if r.atFile then rest else "--" :: rest) }
  else
    match rest with
    | [] => { r with fileTaken := true }
    | file :: rest => { r with file := some file, fileTaken := true, extras := r.extras ++ rest }

end Arguments

namespace Request

/-- The request of a command line. -/
def ofArguments (arguments : List String) : Except UsageFault Request := do
  let front := arguments.takeWhile (· ≠ "--")
  let words ← front.mapM Word.ofText
  let r ← Arguments.ofWords start words
  if r.help then return r
  let r :=
    match arguments.drop front.length with
    | [] => r
    | _ :: rest => Arguments.afterMark r rest
  if r.extras = [] then return r else throw (.unrecognized r.extras)

/-- The schema file: the plain argument, or else the value of its option. -/
def schemaFile? (r : Request) : Option String :=
  (r.file.filter (· ≠ "")).or (r.schema.filter (· ≠ ""))

end Request
end CommandLine
end ClientBindings
