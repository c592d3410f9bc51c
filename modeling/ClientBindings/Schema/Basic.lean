import ClientBindings.Json.Display
import ClientBindings.Schema.Ty

/-!
# Schema — the description of a remote interface

A schema lists classes of objects with their fields and messages, the errors that messages may
report, and the releases of the interface.  Fields form trees: a group stands for its fields, whose
wire names start with the name of the group.

Names, descriptions and releases are what the document says, texts or not; what needs a text asks
for one when it writes it.

* `ApiClass`, `Message`, `Field`, `ErrorDef`, `Release`, `Schema` — the parts of a schema;
* `ApiClass.leaves` — the fields of a class, with the names that lead to them.
-/

namespace ClientBindings

/-- Release history of a class, a field, a message or a parameter, by code names of releases. -/
structure Lifecycle where
  state : Json
  published : Json
  deprecated : Json

namespace Lifecycle

def publishedState : Json := .text "published"

def deprecatedState : Json := .text "deprecated"

end Lifecycle

structure Release where
  codeName : Json
  branding : Json
  version : String

structure Field where
  name : Json
  ty : Ty
  description : Json
  lifecycle : Lifecycle

inductive FieldNode where
  | leaf (field : Field)
  | group (name : Json) (contents : List FieldNode)

structure ErrorDef where
  name : Json
  params : List Json
  description : Json
  deriving DecidableEq

structure Param where
  name : Json
  ty : Ty
  description : Json
  optional : Bool
  lifecycle : Lifecycle

/-- What a message answers with. -/
structure Answer where
  ty : Ty
  description : Json

structure Message where
  cls : Json
  name : Json
  params : List Param
  answer : Option Answer
  description : Json
  needsSession : Bool
  isAsync : Bool
  isStatic : Bool
  errors : List ErrorDef
  lifecycle : Lifecycle
  minRole : Json

structure ApiClass where
  name : Json
  description : Json
  contents : List FieldNode
  messages : List Message
  lifecycle : Lifecycle

namespace ApiClass

/-- A class without contents has no record and cannot be referred to. -/
def isEmpty (c : ApiClass) : Bool :=
  c.contents.isEmpty

end ApiClass

structure Schema where
  classes : List ApiClass
  errors : List ErrorDef
  releases : List Release

/-! ## Leaves -/

/-- A field with the names of the groups that lead to it and its own. -/
structure Leaf where
  names : List Json
  field : Field

namespace Leaf

/-- Names joined by underscores. -/
def path (leaf : Leaf) : String :=
  Text.joined "_" (leaf.names.map Json.display)

/-- Whether all names are texts, so that they can be joined. -/
def isNamed (leaf : Leaf) : Bool :=
  leaf.names.all Json.isText

end Leaf

mutual

/-- Leaves of a node under groups, in order of declaration. -/
def FieldNode.leavesUnder (groups : List Json) : FieldNode → List Leaf
  | .leaf field => [⟨groups ++ [field.name], field⟩]
  | .group name contents => leavesOf (groups ++ [name]) contents
termination_by structural node => node

def leavesOf (groups : List Json) : List FieldNode → List Leaf
  | [] => []
  | node :: rest => node.leavesUnder groups ++ leavesOf groups rest
termination_by structural nodes => nodes

end

namespace ApiClass

/-- The fields of a class in order of declaration. -/
def leaves (c : ApiClass) : List Leaf :=
  leavesOf [] c.contents

end ApiClass
end ClientBindings
