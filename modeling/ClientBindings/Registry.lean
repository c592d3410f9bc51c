import ClientBindings.Emission
import ClientBindings.Table

/-!
# Registry — what generated sources use

A registry collects the types that were met, each once and in order of first registration, the
values of enumerations, and the layouts of records.  Taking a snapshot freezes it: a frozen registry
refuses every registration, so what is generated from a snapshot never sees half a registry.

* `Registry.register` — one registration;
* `Registry.absorb` — a list of encounters, up to the first that is refused;
* `Settled`, `Registry.settle` — the outcome of an emission, whose registrations are entered;
* `Registry.freeze` — the snapshot.
-/

namespace ClientBindings

/-- What a registry held when it was frozen. -/
structure Snapshot where
  enums : Table (List EnumValue)
  records : Table (List (String × Ty))
  types : List Ty

structure Registry where
  enums : Table (List EnumValue)
  records : Table (List (String × Ty))
  types : List Ty
  frozen : Bool

namespace Registry

def empty : Registry :=
  ⟨[], [], [], false⟩

def hasType (r : Registry) (ty : Ty) : Bool :=
  r.types.any ty.sameType

/-- Note something down.  A type has one place; the last values of an enumeration and the last
layout of a record count. -/
def enter (r : Registry) : Registration → Registry
  -- A type that is registered already keeps its place.
  | .type ty => { r with types := if r.hasType ty then r.types else r.types ++ [ty] }
  | .enum name values => { r with enums := r.enums.insert name values }
  | .record cls layout => { r with records := r.records.insert cls.memberText layout }

/-- Note something down, unless the registry is frozen or could not look it up again. -/
def register (r : Registry) (what : Registration) : Except Fault Registry :=
  if r.frozen then .error (.registryFrozen what)
  else if what.isPlain then .ok (r.enter what)
  else .error .notAName

end Registry

/-- Outcome of an emission: what was met until it ended, the registry then, and the result. -/
structure Settled (α : Type) where
  registry : Registry
  met : List Encounter
  result : Except Fault α

namespace Registry

/-- Enter what was met, up to the first registration that is refused. -/
def absorb (r : Registry) : List Encounter → Settled Unit
  | [] => ⟨r, [], .ok ()⟩
  -- Notes are for the log and pass even a frozen registry.
  | .note note :: rest =>
    let s := r.absorb rest
    { s with met := .note note :: s.met }
  | .registration what :: rest =>
    match r.register what with
    | .ok r =>
      let s := absorb r rest
      { s with met := .registration what :: s.met }
    | .error fault => ⟨r, [], .error fault⟩

/-- Outcome of an emission, with its registrations entered. -/
def settle {α : Type} (r : Registry) (m : Emission α) : Settled α :=
  match r.absorb m.met with
  | ⟨r, met, .ok ()⟩ => ⟨r, met, m.result⟩
  | ⟨r, met, .error fault⟩ => ⟨r, met, .error fault⟩

def hasRecord (r : Registry) (cls : String) : Bool :=
  r.records.has cls

/-- The snapshot of a registry, which is frozen from then on. -/
def freeze (r : Registry) : Registry × Snapshot :=
  ({ r with frozen := true }, ⟨r.enums, r.records, r.types⟩)

end Registry
end ClientBindings
