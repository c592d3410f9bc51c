import ClientBindings.Emission
import ClientBindings.Naming
import ClientBindings.Schema.Basic

/-!
# Resolution — what a type becomes

* `Ty.javaType` — the type of a member or a parameter;
* `Ty.decoderName` — the function that decodes a wire object into the type;
* `Ty.defaultValue` — the literal that stands for a member without a value;
* `objectKinds` — the enumeration of the classes that have a record.

Every type that is resolved is met, and so is each of its parts; an enumeration is met with its
values.
-/

namespace ClientBindings

/-- Members that stand for the default of an enumeration, by name of the enumeration. -/
abbrev Overrides := Table String

namespace Scalar

/-- Type of a scalar, and what names its decoder. -/
def javaType : Scalar → String
  | string | secretString => "String"
  | int => "Long"
  | float => "Double"
  | bool => "Boolean"
  | datetime => "Date"

def defaultValue : Scalar → String
  | string | secretString => "\"\""
  | int => "0"
  | float => "0.0"
  | bool => "false"
  | datetime => "new Date(0)"

end Scalar

namespace Ty

/-- The member of an enumeration that an unknown value decodes to. -/
def unrecognized : String := "UNRECOGNIZED"

/-- The reference to no object. -/
def nullReference : String := "OpaqueRef:NULL"

/-- Note that a type is used. -/
def meet (ty : Ty) : Emission Unit := do
  Emission.meet (.registration (.type ty))
  match ty with
  | enum name values => Emission.meet (.registration (.enum name values))
  | _ => pure ()

/-- What a table of scalars has for a kind. -/
def ofScalar (f : Scalar → String) (kind : String) : Emission String :=
  match Scalar.ofName? kind with
  | some s => pure (f s)
  | none => .fail (.unknownScalar kind)

/-- Type of a member or a parameter.  A reference is hidden behind the class of its object, and an
option is the type inside it. -/
def javaType (ty : Ty) : Emission String := do
  ty.meet
  match ty with
  | primitive kind => ofScalar Scalar.javaType kind
  | enum name _ => return "Types." ++ Naming.classCase name
  | set item => return "Set<" ++ (← item.javaType) ++ ">"
  | map key value =>
    let key ← key.javaType
    let value ← value.javaType
    return "Map<" ++ key ++ ", " ++ value ++ ">"
  | ref cls => return Naming.classCase cls
  | record cls => return Naming.classCase cls ++ ".Record"
  -- Nothing tells an option from the type inside it.
  | option inner => inner.javaType

/-- Name of a type inside the name of a decoder. -/
def decoderSuffix (ty : Ty) : Emission String := do
  ty.meet
  match ty with
  | primitive kind => ofScalar Scalar.javaType kind
  | enum name _ => return Naming.classCase name
  | set item => return "SetOf" ++ (← item.decoderSuffix)
  | map key value =>
    let key ← key.decoderSuffix
    let value ← value.decoderSuffix
    return "MapOf" ++ key ++ value
  | ref cls => return Naming.classCase cls
  | record cls => return Naming.classCase cls ++ "Record"
  | option inner => inner.decoderSuffix

/-- Name of the function that decodes a wire object into a type. -/
def decoderName (ty : Ty) : Emission String := do
  return "to" ++ (← ty.decoderSuffix)

/-- Literal for a member without a value.  A record has none. -/
def defaultValue (overrides : Overrides) (ty : Ty) : Emission String := do
  ty.meet
  match ty with
  | primitive kind => ofScalar Scalar.defaultValue kind
  | enum name _ =>
    return "Types." ++ Naming.classCase name ++ "." ++ (overrides.get? name).getD unrecognized
  | set item => return "new LinkedHashSet<" ++ (← item.javaType) ++ ">()"
  | map key value =>
    let key ← key.javaType
    let value ← value.javaType
    return "new HashMap<" ++ key ++ ", " ++ value ++ ">()"
  | ref cls => return "new " ++ Naming.classCase cls ++ "(\"" ++ nullReference ++ "\")"
  | record cls => .fail (.recordWithoutDefault cls)
  | option inner => inner.defaultValue overrides

end Ty

/-- Type of what a message answers with; `void` without an answer. -/
def javaTypeOrVoid : Option Ty → Emission String
  | none => pure "void"
  | some ty => ty.javaType

/-! ## Object kinds -/

/-- Name of the enumeration of object kinds. -/
def objectKindsName : String := "XenAPIObjects"

/-- The enumeration of the classes that have a record, which event snapshots are switched on. -/
def objectKinds (classes : List ApiClass) : Ty :=
  .enum objectKindsName ((classes.filter fun c => !c.isEmpty).map fun c => ⟨c.name, c.description⟩)

end ClientBindings
