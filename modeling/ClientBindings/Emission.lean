import ClientBindings.Fault

/-!
# Emission — generated output and what was met on the way

Generating a source text is a function of its input alone.  Besides the text it yields the list of
things met on the way, in order: the types, enumerations and record layouts that a registry has to
know, and notes for the log.  If generation stops, the list holds what was met until then.

* `Encounter` — one thing met;
* `Emission α` — a value or a fault, with the things met before it;
* `Emission.meet`, `Emission.fail` — the two steps that are not values.

A result that meets nothing is an emission wherever one is expected.
-/

namespace ClientBindings

/-- What a log says about generated parts. -/
inductive Note where
  /-- A release is named that no release table describes. -/
  | unbranded (codeName : String)
  | record (cls : String) (members : Nat)
  | method (cls name : String) (params : Nat)
  deriving DecidableEq

inductive Encounter where
  | registration (what : Registration)
  | note (what : Note)
  deriving DecidableEq

structure Emission (α : Type) where
  met : List Encounter
  result : Except Fault α

namespace Emission

variable {α β γ : Type}

def value (a : α) : Emission α :=
  ⟨[], .ok a⟩

def fail (fault : Fault) : Emission α :=
  ⟨[], .error fault⟩

def meet (e : Encounter) : Emission Unit :=
  ⟨[e], .ok ()⟩

def andThen (m : Emission α) (f : α → Emission β) : Emission β :=
  match m.result with
  | .ok a =>
    let next := f a
    ⟨m.met ++ next.met, next.result⟩
  | .error fault => ⟨m.met, .error fault⟩

instance : Monad Emission where
  pure := value
  bind := andThen

instance : MonadLift (Except Fault) Emission where
  monadLift result := ⟨[], result⟩

theorem andThen_value (m : Emission α) : m.andThen value = m := by
  obtain ⟨met, result⟩ := m
  cases result <;> simp [andThen, value]

theorem value_andThen (a : α) (f : α → Emission β) : (value a).andThen f = f a := by
  simp [andThen, value]

theorem andThen_assoc (m : Emission α) (f : α → Emission β) (g : β → Emission γ) :
    (m.andThen f).andThen g = m.andThen fun a => (f a).andThen g := by
  obtain ⟨met, result⟩ := m
  cases result with
  | error fault => simp [andThen]
  | ok a =>
    cases hf : (f a).result <;> simp [andThen, hf]

theorem met_bind_of_ok {m : Emission α} {a : α} (h : m.result = .ok a) (f : α → Emission β) :
    (m >>= f).met = m.met ++ (f a).met := by
  simp [Bind.bind, andThen, h]

theorem met_bind_of_error {m : Emission α} {fault : Fault} (h : m.result = .error fault)
    (f : α → Emission β) : (m >>= f).met = m.met := by
  simp [Bind.bind, andThen, h]

theorem result_bind (m : Emission α) (f : α → Emission β) :
    (m >>= f).result = m.result >>= fun a => (f a).result := by
  obtain ⟨met, result⟩ := m
  cases result <;> rfl

instance : LawfulMonad Emission :=
  LawfulMonad.mk' Emission
    (fun m => andThen_value m)
    (fun a f => value_andThen a f)
    (fun m f g => andThen_assoc m f g)

end Emission
end ClientBindings
