import ClientBindings.Text.Digit
import ClientBindings.Text.Pieces

/-!
# Option — the options of the command line and how they are spelt

An argument that starts with a dash is an option.  A long option may be abbreviated to any part of
its name that fits no other option, and its value follows an equals sign or is the next argument.  A
short option may be followed by its value, or, if it takes none, by further short options.

* `Opt` — the options;
* `Spelling` — a spelling of an option with what follows it in the same argument;
* `Word`, `Word.ofText` — an argument, told apart by its form.
-/

namespace ClientBindings
namespace CommandLine

inductive Opt where
  | help
  | schema
  | outputDir
  | package
  | templates
  | license
  | enumDefault
  | verbose
  deriving DecidableEq

namespace Opt

/-- Spellings of an option. -/
def spellings : Opt → List String
  | help => ["-h", "--help"]
  | schema => ["--schema"]
  | outputDir => ["--output-dir", "-o"]
  | package => ["--java-package"]
  | templates => ["--templates"]
  | license => ["--license"]
  | enumDefault => ["--enum-default"]
  | verbose => ["--verbose", "-v"]

def all : List Opt :=
  [help, schema, outputDir, package, templates, license, enumDefault, verbose]

def takesValue : Opt → Bool
  | help | verbose => false
  | _ => true

/-- An option as messages name it. -/
def label (o : Opt) : String :=
  Text.joined "/" o.spellings

/-- Every spelling with its option. -/
def bySpelling : List (String × Opt) :=
  all.flatMap fun o => o.spellings.map (·, o)

def ofSpelling? (spelling : String) : Option Opt :=
  bySpelling.lookup spelling

end Opt

/-- A spelling of an option with what follows it in the same argument.  An equals sign between them
belongs to neither. -/
structure Spelling where
  text : String
  opt : Opt
  attached : Option (List Char)
  deriving DecidableEq

/-- Whether the option is spelt with a single dash. -/
def Spelling.isShort (s : Spelling) : Bool :=
  !"--".toList.isPrefixOf s.text.toList

/-- An argument by its form. -/
inductive Word where
  | plain (text : String)
  | option (spelling : Spelling)
  /-- Looks like an option, but is none. -/
  | unknown (text : String)
  deriving DecidableEq

/-- The part of a text before an equals sign and the part after it. -/
def cutAtSign : List Char → Option (List Char × List Char)
  | [] => none
  | '=' :: rest => some ([], rest)
  | c :: rest => (cutAtSign rest).map fun (before, after) => (c :: before, after)

/-- Name and attached value of a long option. -/
def nameAndValue (cs : List Char) : List Char × Option (List Char) :=
  match cutAtSign cs with
  | some (name, value) => (name, some value)
  | none => (cs, none)

/-- Long options that a name abbreviates. -/
def abbreviated (cs : List Char) : List Spelling :=
  let (name, attached) := nameAndValue cs
  (Opt.bySpelling.filter fun s => name.isPrefixOf s.1.toList).map fun s => ⟨s.1, s.2, attached⟩

/-- The short option that an argument starts with. -/
def shortOption (cs : List Char) : List Spelling :=
  match Opt.ofSpelling? (.ofList (cs.take 2)) with
  | some o => [⟨.ofList (cs.take 2), o, some (cs.drop 2)⟩]
  | none => []

/-- What an argument may mean that spells no option in full. -/
def candidates : List Char → List Spelling
  | '-' :: '-' :: rest => abbreviated ('-' :: '-' :: rest)
  | cs => shortOption cs

/-- An option spelt in full, alone or with a value behind an equals sign. -/
def fullSpelling? (cs : List Char) : Option Spelling :=
  match Opt.ofSpelling? (.ofList cs) with
  | some o => some ⟨.ofList cs, o, none⟩
  | none =>
    match cutAtSign cs with
    | some (name, value) =>
      (Opt.ofSpelling? (.ofList name)).map (⟨.ofList name, ·, some value⟩)
    | none => none

/-- A text without the line feed that ends it, if one does. -/
def withoutLineEnd (cs : List Char) : List Char :=
  if cs.getLast? = some '\n' then cs.dropLast else cs

/-- A minus sign with digits, of which a point may stand in front of the last ones.  A line feed may
follow. -/
def isNegativeNumber (cs : List Char) : Bool :=
  match withoutLineEnd cs with
  | '-' :: rest =>
    let whole := rest.takeWhile Text.isDigit
    match rest.dropWhile Text.isDigit with
    | [] => whole ≠ []
    | '.' :: decimals => decimals ≠ [] && decimals.all Text.isDigit
    | _ => false
  | _ => false

/-- Why the arguments of the command line cannot be used. -/
inductive UsageFault where
  | ambiguous (argument : String) (spellings : List String)
  | missingValue (o : Opt)
  | uselessValue (o : Opt) (shown : String)
  | badOverride (text : String)
  | unrecognized (arguments : List String)
  | missingSchema
  deriving DecidableEq

namespace UsageFault

def onOption (o : Opt) (text : String) : String :=
  "argument " ++ o.label ++ ": " ++ text

def message : UsageFault → String
  | ambiguous argument spellings =>
    "ambiguous option: " ++ argument ++ " could match " ++ Text.joined ", " spellings
  | missingValue o => onOption o "expected one argument"
  | uselessValue o shown => onOption o ("ignored explicit argument " ++ shown)
  | badOverride text => onOption .enumDefault ("expected ENUM=MEMBER, got '" ++ text ++ "'")
  | unrecognized arguments => "unrecognized arguments: " ++ Text.joined " " arguments
  | missingSchema => "Schema file is required (positional or --schema)"

end UsageFault

/-- An argument by its form.  One that starts with a dash and is no option is still plain if it is a
single dash, a negative number, or has a space in it. -/
def Word.ofText (argument : String) : Except UsageFault Word :=
  let cs := argument.toList
  if cs.head? ≠ some '-' ∨ cs = ['-'] then .ok (.plain argument)
  else
    match fullSpelling? cs with
    | some spelling => .ok (.option spelling)
    | none =>
      -- An abbreviation has to leave no choice.
      match candidates cs with
      | [spelling] => .ok (.option spelling)
      | [] =>
        if isNegativeNumber cs ∨ ' ' ∈ cs then .ok (.plain argument) else .ok (.unknown argument)
      | several => .error (.ambiguous argument (several.map Spelling.text))

end CommandLine
end ClientBindings
