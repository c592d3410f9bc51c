import ClientBindings.Disk.Fault
import ClientBindings.Json.Display
import ClientBindings.Schema.Ty

/-!
# Fault — why a run stops

* `SchemaFault` — a document is not a schema;
* `Registration` — what a registry is asked to note down;
* `Fault` — every cause that ends a run, with `Fault.message` for its wording;
* `Json.asText` — a value that has to be a text.

`Fault.isReported` tells the causes that a run reports by their message from those that end the
program.
-/

namespace ClientBindings

/-- What a registry is asked to note down. -/
inductive Registration where
  | type (ty : Ty)
  | enum (name : String) (values : List EnumValue)
  | record (cls : Json) (layout : List (String × Ty))
  deriving DecidableEq

/-- Whether a registry can look the thing up again. -/
def Registration.isPlain : Registration → Bool
  | .type ty => ty.isPlain
  | .enum _ _ => true
  | .record cls _ => cls.isScalar

inductive SchemaFault where
  /-- The document is no object. -/
  | notAMapping
  /-- The enumerations or the errors have the wrong shape. -/
  | malformedDefinitions
  /-- Something else has the wrong shape. -/
  | malformedDocument
  | missingKey (key : String)
  | unknownError (cls message error : String)
  | unreadableType (text : String)
  | undeclaredEnum (name : String)
  | mapArity (text : String)
  | unknownConstructor (constructor text : String)
  deriving DecidableEq

namespace SchemaFault

def message : SchemaFault → String
  | notAMapping => "Schema document must be a mapping"
  | malformedDefinitions => "Malformed enum or error definition"
  | malformedDocument => "Malformed schema document"
  | missingKey key => "Missing required key '" ++ key ++ "'"
  | unknownError cls message error =>
    "Message " ++ cls ++ "." ++ message ++ " declares unknown error '" ++ error ++ "'"
  | unreadableType text => "Cannot parse type '" ++ text ++ "'"
  | undeclaredEnum name => "Undeclared enum '" ++ name ++ "'"
  | mapArity text => "Map type needs a key and a value: '" ++ text ++ "'"
  | unknownConstructor constructor text =>
    "Unknown type constructor '" ++ constructor ++ "' in '" ++ text ++ "'"

end SchemaFault

inductive Fault where
  | schema (fault : SchemaFault)
  /-- A registry was asked to note something down after its snapshot was taken. -/
  | registryFrozen (what : Registration)
  /-- A record is decoded, but no class registered its layout. -/
  | unregisteredRecord (cls : String)
  /-- An object kind has no record to decode an event snapshot into. -/
  | missingSnapshotCase (kind : String)
  | recordWithoutDefault (cls : String)
  /-- A type names a scalar kind that does not exist. -/
  | unknownScalar (kind : String)
  /-- What has to be a text is none: a name, a description, or the package. -/
  | textExpected
  /-- A list or an object stands where a name is looked up. -/
  | notAName
  /-- The names that lead to a field are not all texts. -/
  | unjoinedNames
  /-- Names that cannot be sorted, such as a text and a number. -/
  | unsortedNames
  /-- A template loops over what is neither a list, nor a text, nor an object. -/
  | notALoop
  /-- A scope has a value for a name that templates keep for themselves. -/
  | reservedName
  /-- The option of the output folder is given with nothing for its value. -/
  | missingOutput
  /-- The option of an override is given with nothing for its value. -/
  | missingOverride
  | disk (fault : DiskFault)
  | templateNotFound
  /-- A template of a folder that cannot be filled in. -/
  | brokenTemplate
  /-- A template uses a value that its context lacks. -/
  | undefinedValue
  | notJson
  /-- A document has a whole number of too many digits. -/
  | numberTooLong
  /-- A document spells half a character on its own. -/
  | halfCharacter
  | notYaml
  deriving DecidableEq

/-! ## Wording -/

namespace Ty

/-- A pair or a longer sequence in parentheses; one element has a comma after it. -/
def shownTuple : List String → String
  | [one] => "(" ++ one ++ ",)"
  | items => "(" ++ Text.joined ", " items ++ ")"

/-- A type with the names of its parts, as messages show it. -/
def shown : Ty → String
  | primitive kind => "Primitive(kind=" ++ Text.quoted kind ++ ")"
  | enum name values =>
    "EnumType(name=" ++ Text.quoted name ++ ", values=" ++
      shownTuple (values.map fun v => shownTuple [v.wire.shown, v.description.shown]) ++ ")"
  | set item => "SetType(item=" ++ item.shown ++ ")"
  | map key value => "MapType(key=" ++ key.shown ++ ", value=" ++ value.shown ++ ")"
  | ref cls => "Ref(cls=" ++ Text.quoted cls ++ ")"
  | record cls => "Record(cls=" ++ Text.quoted cls ++ ")"
  | option inner => "Option(inner=" ++ inner.shown ++ ")"

end Ty

namespace Registration

def shown : Registration → String
  | type ty => "type " ++ ty.shown
  | enum name _ => "enum '" ++ name ++ "'"
  | record cls _ => "record '" ++ cls.display ++ "'"

end Registration

namespace Fault

def message : Fault → String
  | schema fault => fault.message
  | registryFrozen what => "Cannot register " ++ what.shown ++ ": context is frozen"
  | unregisteredRecord cls => "No record layout registered for class '" ++ cls ++ "'"
  | missingSnapshotCase kind =>
    "Object kind '" ++ kind ++ "' has no record to unmarshal an event snapshot into"
  | recordWithoutDefault cls => "Record type '" ++ cls ++ "' has no default value"
  | unknownScalar kind => "Unknown scalar kind '" ++ kind ++ "'"
  | textExpected => "A text is expected"
  | notAName => "A list or an object is no name"
  | unjoinedNames => "The names of a field are not all texts"
  | unsortedNames => "The names of the errors cannot be sorted"
  | notALoop => "A template loops over a single value"
  | reservedName => "A template keeps a name for itself"
  | missingOutput => "The output folder is missing"
  | missingOverride => "The default of an enumeration is missing"
  | disk fault => fault.message
  | templateNotFound => "Template not found"
  | brokenTemplate => "A template cannot be filled in"
  | undefinedValue => "A template uses an undefined value"
  | notJson => "The schema file is not a JSON document"
  | numberTooLong => "A number of the schema file has too many digits"
  | halfCharacter => "A text of the schema file holds half a character"
  | notYaml => "The schema file is not a YAML document"

/-- Causes that lie in the schema and are reported; the others end the program. -/
def isReported : Fault → Bool
  | schema _ | registryFrozen _ | unregisteredRecord _ | missingSnapshotCase _
  | recordWithoutDefault _ => true
  | _ => false

end Fault

/-- A value that has to be a text. -/
def Json.asText : Json → Except Fault String
  | text s => .ok s
  | _ => .error .textExpected

end ClientBindings
