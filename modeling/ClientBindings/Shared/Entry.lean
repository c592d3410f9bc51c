import ClientBindings.Json.Basic
import ClientBindings.Shared.Decoder

/-!
# Entry — what the shared source declares

The shared source declares an exception for each error, an enumeration for each registered one, and
a function for each decoder name.  Entries are sorted by name, so the text does not depend on the
order of the classes.

* `ErrorEntry`, `EnumEntry`, `TypeEntry` — the declarations;
* `errorEntries`, `enumEntries`, `typeEntries` — the declarations of a run;
* `toJson` of each — the value that a template sees.
-/

namespace ClientBindings
namespace Shared

/-- Put an item into a sorted list, in front of the items of the same name. -/
def insertBy {α : Type} (name : α → String) (item : α) : List α → List α
  | [] => [item]
  | other :: rest =>
    if name other < name item then other :: insertBy name item rest else item :: other :: rest

/-- A list in the order of names, code point by code point; equal names keep their order. -/
def sortedBy {α : Type} (name : α → String) (items : List α) : List α :=
  items.foldr (insertBy name) []

/-! ## Errors -/

/-- A field of an exception, filled from the parameter at `index`. -/
structure ErrorParam where
  name : String
  index : Nat
  isLast : Bool

structure ErrorEntry where
  name : String
  description : String
  className : String
  params : List ErrorParam

def errorParams (params : List String) : List ErrorParam :=
  params.zipIdx.map fun (param, index) =>
    ⟨Naming.errorFieldName param, index, index + 1 = params.length⟩

/-- The declaration of an error, whose texts have to be texts. -/
def errorEntry (e : ErrorDef) : Except Fault ErrorEntry := do
  let params ← e.params.mapM Json.asText
  let description ← Comment.described e.description
  let name ← e.name.asText
  return ⟨name, description, Naming.exceptionCase name, errorParams params⟩

/-- Errors in the order of their names.  Texts can be sorted, and so can numbers; a single error is
sorted whatever its name is. -/
def sortedErrors (errors : List ErrorDef) : Except Fault (List ErrorDef) :=
  if errors.all (fun e => e.name.isText) then .ok (sortedBy (fun e => e.name.display) errors)
  else if errors.length ≤ 1 ∨ errors.all fun e => e.name.isNumber then .ok errors
  else .error .unsortedNames

def errorEntries (errors : List ErrorDef) : Except Fault (List ErrorEntry) := do
  -- No error is declared that is not named by a text, so the order of others never shows.
  (← sortedErrors errors).mapM errorEntry

/-! ## Enumerations -/

structure EnumConstant where
  wire : String
  name : String
  description : String

structure EnumEntry where
  className : String
  values : List EnumConstant

/-- A description inside the comment of a constant, every line of it behind an asterisk. -/
def constantDescription (text : String) : String :=
  Text.substitute '\n' "\n         * " (Comment.breakEndsOf text)

def enumConstant (v : EnumValue) : Except Fault EnumConstant := do
  let description ← v.description.asText
  let wire ← v.wire.asText
  return ⟨wire, Naming.constantCase wire, constantDescription description⟩

def enumEntry (enum : String × List EnumValue) : Except Fault EnumEntry := do
  return ⟨Naming.classCase enum.1, ← enum.2.mapM enumConstant⟩

def enumEntries (snapshot : Snapshot) : Except Fault (List EnumEntry) :=
  (sortedBy Prod.fst snapshot.enums).mapM enumEntry

/-! ## Types -/

structure TypeEntry where
  name : String
  className : String
  /-- Name of the function. -/
  methodName : String
  /-- Whether the function casts to a type with parameters or to a record. -/
  isUnchecked : Bool
  /-- Whether the result of a task can be decoded, too. -/
  isReference : Bool
  decoder : Decoder

def isUnchecked : Ty → Bool
  | .map _ _ | .record _ => true
  | _ => false

def isReference : Ty → Bool
  | .ref _ => true
  | _ => false

def isEventRecord : Ty → Bool
  | .record cls => Source.isEvent cls
  | _ => false

/-- Types that need a function: those of the snapshot, and the records that an event may hold. -/
def decodedTypes (snapshot : Snapshot) : Except Fault (List Ty) := do
  -- The switch over object kinds calls the function of every kind.
  if snapshot.types.any fun ty => isEventRecord ty.eraseOption then
    let dispatch ← Dispatch.ofSnapshot snapshot
    return snapshot.types ++ dispatch.cases.map fun c => .record c.kind
  else return snapshot.types

def typeEntry (snapshot : Snapshot) (methodName : String) (ty : Ty) : Except Fault TypeEntry := do
  let name ← typeName ty
  let decoder ← Decoder.ofType snapshot ty
  return {
    name, methodName, decoder
    className := Naming.classCase name
    isUnchecked := isUnchecked ty.eraseOption
    isReference := isReference ty.eraseOption
  }

/-- Add the function for a type, unless there is one of its name. -/
def addType (snapshot : Snapshot) (entries : List TypeEntry) (ty : Ty) :
    Except Fault (List TypeEntry) := do
  let methodName ← decoderName ty
  -- `T` and an option of `T` share a function, and so do the two kinds of text.
  if entries.any fun e => e.methodName = methodName then return entries
  else return entries ++ [← typeEntry snapshot methodName ty]

/-- One function for each decoder name: that of the first type of the name. -/
def typeEntries (snapshot : Snapshot) : Except Fault (List TypeEntry) := do
  let types ← decodedTypes snapshot
  return sortedBy TypeEntry.methodName (← types.foldlM (addType snapshot) [])

/-! ## As values -/

def ErrorParam.toJson (p : ErrorParam) : Json :=
  .object [("name", .text p.name), ("index", .integer p.index), ("last", .bool p.isLast)]

def ErrorEntry.toJson (e : ErrorEntry) : Json :=
  .object [("name", .text e.name), ("description", .text e.description),
    ("class_name", .text e.className), ("err_params", .list (e.params.map ErrorParam.toJson))]

def EnumConstant.toJson (c : EnumConstant) : Json :=
  .object [("name", .text c.wire), ("name_uppercase", .text c.name),
    ("description", .text c.description)]

def EnumEntry.toJson (e : EnumEntry) : Json :=
  .object [("class_name", .text e.className), ("values", .list (e.values.map EnumConstant.toJson))]

def TypeEntry.toJson (e : TypeEntry) : Json :=
  .object [("name", .text e.name), ("class_name", .text e.className),
    ("method_name", .text e.methodName), ("suppress_unchecked_warning", .bool e.isUnchecked),
    ("generate_reference_task_result_func", .bool e.isReference),
    ("method_body", .text e.decoder.text)]

/-! ## All declarations -/

/-- Every declaration of the shared source. -/
structure Declarations where
  errors : List ErrorEntry
  enums : List EnumEntry
  types : List TypeEntry

/-- The declarations of a run: errors first, then enumerations, then functions. -/
def declarations (snapshot : Snapshot) (errors : List ErrorDef) : Except Fault Declarations := do
  let errors ← errorEntries errors
  let enums ← enumEntries snapshot
  let types ← typeEntries snapshot
  return ⟨errors, enums, types⟩

/-- The declarations by name, as a template sees them. -/
def Declarations.members (d : Declarations) : List (String × Json) :=
  [("errors", .list (d.errors.map ErrorEntry.toJson)),
    ("enums", .list (d.enums.map EnumEntry.toJson)),
    ("types", .list (d.types.map TypeEntry.toJson))]

end Shared
end ClientBindings
