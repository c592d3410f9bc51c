import ClientBindings.Json.Display
import ClientBindings.Schema.Basic
import ClientBindings.Schema.TypeText

/-!
# Document — a schema from a decoded document

A document is an object with the members `enums`, `errors`, `classes` and `releases`, each of which
may be absent.  The enumerations and the errors are read first, then the classes, then the releases,
and the first fault met in that order is the answer.

* `Definitions` — the declared enumerations and errors, which types and messages refer to;
* `Schema.ofDocument` — the schema of a document.
-/

namespace ClientBindings

/-- What the rest of a document refers to by name. -/
structure Definitions where
  enums : Table (List EnumValue)
  /-- Errors of distinct names. -/
  errors : List ErrorDef

namespace Definitions

/-- The declared error of a name. -/
def error? (defs : Definitions) (name : Json) : Option ErrorDef :=
  defs.errors.find? fun e => e.name.sameName name

end Definitions

namespace Document

abbrev Read := Except SchemaFault

/-! ## Members of an object -/

/-- A member that has to be there. -/
def required (j : Json) (key : String) : Read Json :=
  match j with
  | .object _ =>
    match j.get? key with
    | some v => .ok v
    | none => .error (.missingKey key)
  | _ => .error .malformedDocument

/-- A member that may be absent. -/
def member? (j : Json) (key : String) : Read (Option Json) :=
  match j with
  | .object _ => .ok (j.get? key)
  | _ => .error .malformedDocument

def text : Json → Read String
  | .text s => .ok s
  | _ => .error .malformedDocument

/-- A member that may be absent, and `null` where it is. -/
def memberOrNull (j : Json) (key : String) : Read Json := do
  return (← member? j key).getD .null

/-- A description, empty where it is absent. -/
def description (j : Json) : Json :=
  (j.get? "description").getD (.text "")

def flag (j : Json) (key : String) (absent : Bool) : Bool :=
  ((j.get? key).map Json.truthy).getD absent

/-- The entries of a list of objects, none where the list is absent. -/
def entries (j : Json) (key : String) : Read (List Json) := do
  match ((← member? j key).getD (.list [])).entries? with
  | some items => return items
  | none => throw .malformedDocument

/-! ## Definitions -/

/-- A value on its own, or a value with its description. -/
def enumValue? : Json → Option EnumValue
  | .text wire => some ⟨.text wire, .text ""⟩
  | pair =>
    match pair.elements? with
    | some [wire, meaning] => some ⟨wire, meaning⟩
    | _ => none

def enum? (values : Json) : Option (List EnumValue) := do
  (← values.elements?).mapM enumValue?

def enums? (document : Json) : Option (Table (List EnumValue)) :=
  match (document.get? "enums").getD (.object []) with
  | .object members => members.mapM fun (name, values) => (enum? values).map (name, ·)
  | _ => none

/-- An error.  Its name has to be one that can be looked up. -/
def errorDef? (j : Json) : Option ErrorDef := do
  let name ← j.get? "name"
  let params ← ((j.get? "params").getD (.list [])).elements?
  if name.isScalar then return ⟨name, params, description j⟩ else none

/-- Put in the definition of an error: in the place of one of its name, or at the end. -/
def enterError : List ErrorDef → ErrorDef → List ErrorDef
  | [], e => [e]
  | other :: rest, e =>
    if other.name.sameName e.name then e :: rest else other :: enterError rest e

/-- Declared errors.  The last definition of a name counts, at the place of the first. -/
def errors? (document : Json) : Option (List ErrorDef) := do
  let items ← ((document.get? "errors").getD (.list [])).entries?
  return (← items.mapM errorDef?).foldl enterError []

def definitions (document : Json) : Read Definitions :=
  match document with
  | .object _ =>
    match enums? document, errors? document with
    | some enums, some errors => .ok ⟨enums, errors⟩
    | _, _ => .error .malformedDefinitions
  | _ => .error .notAMapping

/-! ## Classes -/

/-- A lifecycle; one that is not set is that of a published item, and an item with a release of
deprecation is deprecated unless it says otherwise. -/
def lifecycle (j : Json) : Read Lifecycle := do
  let given ← memberOrNull j "lifecycle"
  -- Whatever does not count as set stands for no lifecycle at all.
  let given := if given.truthy then given else .object []
  let deprecated ← memberOrNull given "deprecated"
  let usual := if deprecated.truthy then Lifecycle.deprecatedState else Lifecycle.publishedState
  let state := (← member? given "state").getD usual
  let published ← memberOrNull given "published"
  return ⟨state, published, deprecated⟩

def type (defs : Definitions) (j : Json) : Read Ty := do
  Ty.ofText defs.enums (← text j)

def field (defs : Definitions) (j : Json) : Read Field := do
  let name ← required j "name"
  let ty ← type defs (← required j "type")
  return ⟨name, ty, description j, ← lifecycle j⟩

set_option linter.unusedVariables false in
/-- Nodes of a field tree: an entry with a `namespace` is a group, any other a field. -/
def nodes (defs : Definitions) (j : Json) : Read (List FieldNode) :=
  match hitems : j.entries? with
  | none => .error .malformedDocument
  | some items => items.attach.mapM fun ⟨entry, hentry⟩ => do
    match ← member? entry "namespace" with
    | none => return .leaf (← field defs entry)
    | some name =>
      match hfields : entry.get? "fields" with
      | none => return .group name []
      | some fields => return .group name (← nodes defs fields)
termination_by sizeOf j
decreasing_by
  have inEntry := Json.sizeOf_lt_of_get? hfields
  have inList := Json.sizeOf_lt_of_mem_entries? hitems hentry
  omega

def param (defs : Definitions) (j : Json) : Read Param := do
  let name ← required j "name"
  let ty ← type defs (← required j "type")
  return ⟨name, ty, description j, flag j "optional" false, ← lifecycle j⟩

/-- What a message answers with: a type on its own, or a type with its description. -/
def answer (defs : Definitions) (message : Json) : Read (Option Answer) := do
  match ← member? message "result" with
  | none | some .null => return none
  | some (.text spelling) => return some ⟨← Ty.ofText defs.enums spelling, .text ""⟩
  | some given =>
    let ty ← type defs (← required given "type")
    return some ⟨ty, description given⟩

/-- A declared error by its name.  A list or an object cannot be a name. -/
def declaredError (defs : Definitions) (cls message name : Json) : Read ErrorDef := do
  if !name.isScalar then throw .malformedDocument
  match defs.error? name with
  | some error => return error
  | none => throw (.unknownError cls.display (← required message "name").display name.display)

def message (defs : Definitions) (cls j : Json) : Read Message := do
  -- The answer and the errors are read before the name: their faults are met first.
  let answer ← answer defs j
  let names ← match ((← member? j "errors").getD (.list [])).elements? with
    | some names => pure names
    | none => throw .malformedDocument
  let errors ← names.mapM (declaredError defs cls j)
  let name ← required j "name"
  let params ← (← entries j "params").mapM (param defs)
  let life ← lifecycle j
  return {
    cls, name, params, answer, errors
    minRole := (j.get? "min_role").getD (.text "")
    description := description j
    lifecycle := life
    needsSession := flag j "session" true
    isAsync := flag j "async" false
    isStatic := flag j "static" false
  }

def apiClass (defs : Definitions) (j : Json) : Read ApiClass := do
  let name ← required j "name"
  let contents ← nodes defs ((← member? j "fields").getD (.list []))
  let messages ← (← entries j "messages").mapM (message defs name)
  return ⟨name, description j, contents, messages, ← lifecycle j⟩

def release (j : Json) : Read Release := do
  let codeName ← required j "code_name"
  let branding := (j.get? "branding").getD codeName
  let version := ((j.get? "version").getD (.text "")).display
  return ⟨codeName, branding, version⟩

end Document

/-- The schema of a document. -/
def Schema.ofDocument (document : Json) : Except SchemaFault Schema := do
  let defs ← Document.definitions document
  let classes ← (← Document.entries document "classes").mapM (Document.apiClass defs)
  let releases ← (← Document.entries document "releases").mapM Document.release
  return ⟨classes, defs.errors, releases⟩

end ClientBindings
