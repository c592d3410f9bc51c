import ClientBindings.Table
import ClientBindings.Text.Case

/-!
# Naming — names of generated declarations

A name in a schema is a sequence of segments joined by underscores.  A segment whose second
character is its own upper case is an acronym and stays as it is; the first letter of any other
segment is capitalised.

* `classCase` — names of classes: `VM_guest_metrics` becomes `VMGuestMetrics`;
* `camelCase` — names of members and parameters: `name_label` becomes `nameLabel`;
* `constantCase` — names of enumeration constants: `hvm-boot` becomes `HVM_BOOT`;
* `exceptionCase` — names of exceptions: `HANDLE_INVALID` becomes `HandleInvalid`;
* `errorFieldName` — names of exception fields: `expected value` becomes `expectedValue`.
-/

namespace ClientBindings
namespace Naming

abbrev Segment := List Char

/-- Words that cannot be names, and what stands for them. -/
def reservedWords : Table String :=
  [("class", "clazz"), ("clone", "createClone"), ("param-name", "param_name"),
    ("interface", "iface"), ("import", "import_")]

/-- Keywords that a name in camel case can still be. -/
def keywords : Table String :=
  [("public", "_public")]

/-- What a table puts in the place of a word; the word itself where the table has none. -/
def replaced (table : Table String) (word : String) : String :=
  (table.get? word).getD word

def escapeReserved (word : String) : String :=
  replaced reservedWords word

/-- Whether a segment is an acronym: its second character is its own upper case. -/
def isAcronym : Segment → Bool
  | _ :: second :: _ => Text.upperChar second = [second]
  | _ => false

def capitalize : Segment → Segment
  | [] => []
  | c :: rest => Text.upperChar c ++ rest

def uncapitalize : Segment → Segment
  | [] => []
  | c :: rest => Text.lowerChar c ++ rest

/-- A segment inside a name: an acronym, or a word with a capital letter in front. -/
def transform (segment : Segment) : Segment :=
  if isAcronym segment then segment
  -- The reserved words are written with a small first letter.
  else capitalize (escapeReserved (.ofList (uncapitalize segment))).toList

/-- Segments of a name, each transformed. -/
def segments (name : String) : List Segment :=
  (name.toList.splitOn '_').map transform

def classCase (name : String) : String :=
  .ofList (segments name).flatten

/-- The first segment of a name in camel case: an acronym, or a word with a small letter in
front. -/
def camelHead (segment : Segment) : Segment :=
  if isAcronym segment then segment else uncapitalize segment

def camelCase (name : String) : String :=
  match segments name with
  | [] => ""
  -- Only the head of a name is put back into small letters.
  | head :: tail => replaced keywords (.ofList (camelHead head ++ tail.flatten))

def constantCase (wire : String) : String :=
  .ofList ((Text.upper wire.toList).map fun c => if c = '-' then '_' else c)

def exceptionCase (name : String) : String :=
  .ofList ((name.toList.splitOn '_').flatMap fun segment =>
    Text.capitalized (Text.lower segment))

def errorFieldName (field : String) : String :=
  camelCase (.ofList (field.toList.map fun c => if c = ' ' then '_' else c))

end Naming
end ClientBindings
