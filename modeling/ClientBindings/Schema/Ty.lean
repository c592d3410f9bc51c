import ClientBindings.Json.Name

/-!
# Ty — the types of a schema

* `Scalar` — the six kinds of scalar value, with their names in a schema;
* `EnumValue` — a value of an enumeration and its description;
* `Ty` — scalars, enumerations, sets, maps, references to objects, records of objects, and options;
* `Ty.sameType`, `Ty.isPlain` — when two types are one, and which types can be told apart.

A type names its scalar kind by text: a type may be handed in that no schema can spell, and
resolving it fails then.  The values of an enumeration are what its document declares, texts or not.
-/

namespace ClientBindings

inductive Scalar where
  | string
  | secretString
  | int
  | float
  | bool
  | datetime
  deriving DecidableEq

namespace Scalar

/-- Name of a scalar kind in a schema. -/
def name : Scalar → String
  | string => "string"
  | secretString => "secret_string"
  | int => "int"
  | float => "float"
  | bool => "bool"
  | datetime => "datetime"

def all : List Scalar :=
  [string, secretString, int, float, bool, datetime]

/-- The scalar kind of a name. -/
def ofName? (name : String) : Option Scalar :=
  all.find? fun s => s.name = name

end Scalar

/-- A value as it travels, and what it means. -/
structure EnumValue where
  wire : Json
  description : Json
  deriving DecidableEq

namespace EnumValue

def isPlain (v : EnumValue) : Bool :=
  v.wire.isScalar && v.description.isScalar

def canonical (v : EnumValue) : EnumValue :=
  ⟨v.wire.canonical, v.description.canonical⟩

end EnumValue

inductive Ty where
  | primitive (kind : String)
  | enum (name : String) (values : List EnumValue)
  | set (item : Ty)
  | map (key value : Ty)
  | ref (cls : String)
  | record (cls : String)
  | option (inner : Ty)
  deriving DecidableEq

namespace Ty

def scalar (s : Scalar) : Ty :=
  primitive s.name

/-- The type under all options around it. -/
def eraseOption : Ty → Ty
  | option inner => inner.eraseOption
  | ty => ty

/-! ## Telling types apart -/

/-- Whether the values of all enumerations in a type are scalars.  Others cannot be looked up. -/
def isPlain : Ty → Bool
  | enum _ values => values.all EnumValue.isPlain
  | set item => item.isPlain
  | map key value => key.isPlain && value.isPlain
  | option inner => inner.isPlain
  | primitive _ | ref _ | record _ => true

/-- The type that stands for all types that are one. -/
def canonical : Ty → Ty
  | enum name values => enum name (values.map EnumValue.canonical)
  | set item => set item.canonical
  | map key value => map key.canonical value.canonical
  | option inner => option inner.canonical
  | primitive kind => primitive kind
  | ref cls => ref cls
  | record cls => record cls

def sameType (s t : Ty) : Bool :=
  s.canonical = t.canonical

end Ty
end ClientBindings
