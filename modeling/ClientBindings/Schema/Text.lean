import ClientBindings.Json.Reader
import ClientBindings.Path
import ClientBindings.Schema.Document
import ClientBindings.Text.Case

/-!
# Schema texts — a schema from the text of its file

The name of a schema file tells its notation: files that end in `.yml` and `.yaml` are in YAML, and
all others are in JSON.  What a text in YAML says is for others to tell, so everything here is about
any reader of that notation.

* `Path.isYaml` — the notation of a file, by its name;
* `YamlReader` — what a text in YAML says;
* `Document.ofText`, `Schema.ofText` — the document and the schema in a file.
-/

namespace ClientBindings

/-- Whether a file is in YAML, by its name. -/
def Path.isYaml (file : Path) : Bool :=
  Text.lowered file.suffix ∈ [".yml", ".yaml"]

/-- The document that a text in YAML holds.  There is none if the text breaks the rules of the
notation, or if it holds a value that documents do not have, such as a date. -/
abbrev YamlReader := String → Option Json

/-- The fault of a document in JSON that cannot be read. -/
def Json.ReadFault.fault : Json.ReadFault → Fault
  | notJson => .notJson
  | numberTooLong => .numberTooLong
  | halfCharacter => .halfCharacter

/-- The document in a file with a text. -/
def Document.ofText (yaml : YamlReader) (file : Path) (text : String) : Except Fault Json :=
  if file.isYaml then
    -- Files are read with line feeds for their breaks, which are all the same to JSON.
    match yaml (Text.unified text) with
    | some document => .ok document
    | none => .error .notYaml
  else (Json.read text).mapError Json.ReadFault.fault

/-- The schema in a file with a text. -/
def Schema.ofText (yaml : YamlReader) (file : Path) (text : String) : Except Fault Schema := do
  let document ← Document.ofText yaml file text
  (Schema.ofDocument document).mapError .schema

end ClientBindings
