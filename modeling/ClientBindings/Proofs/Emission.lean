import ClientBindings.Emission
import ClientBindings.Proofs.Fallible

/-!
# Emission — what an emission registers

An emission that completes has met what each of its steps met.  Notes aside, that is a list of
registrations, and mostly only its members matter: a method resolves the same types once for each
overload.

* `Emission.registered` — the registrations of an emission, in order;
* `Emission.Registers` — the registrations of an emission that completes, as a set given by a list;
* `Registers.bind`, `Registers.mapM` — what a sequence of steps registers;
* `Emission.Sound` — an emission whose faults are of some kind, and whose registrations can be looked
  up, also if it fails;
* `Emission.result_mapM` — the result of a sequence is that of the results.
-/

namespace ClientBindings

/-- The registration that an encounter is, if it is one. -/
def Encounter.registration? : Encounter → Option Registration
  | registration what => some what
  | note _ => none

/-- The registrations among encounters, in order. -/
def registrationsOf (met : List Encounter) : List Registration :=
  met.filterMap Encounter.registration?

theorem registrationsOf_append (met later : List Encounter) :
    registrationsOf (met ++ later) = registrationsOf met ++ registrationsOf later :=
  List.filterMap_append

namespace Emission

variable {α β : Type}

def registered (m : Emission α) : List Registration :=
  registrationsOf m.met

/-! ## Results -/

@[simp] theorem result_pure (a : α) : (pure a : Emission α).result = .ok a :=
  rfl

@[simp] theorem result_liftM (e : Except Fault α) : (liftM e : Emission α).result = e :=
  rfl

theorem liftM_ok (a : α) : (liftM (Except.ok a : Except Fault α) : Emission α) = pure a :=
  rfl

@[simp] theorem result_meet (e : Encounter) : (meet e).result = .ok () :=
  rfl

@[simp] theorem result_fail (fault : Fault) : (fail fault : Emission α).result = .error fault :=
  rfl

/-- A chain that completes has completed at its first step and at the rest. -/
theorem result_bind_eq_ok {m : Emission α} {f : α → Emission β} {b : β} :
    (m >>= f).result = .ok b ↔ ∃ a, m.result = .ok a ∧ (f a).result = .ok b := by
  rw [result_bind]
  exact Except.bind_eq_ok

theorem result_mapM (f : α → Emission β) (xs : List α) :
    (xs.mapM f).result = xs.mapM fun x => (f x).result := by
  induction xs with
  | nil => rfl
  | cons x rest ih =>
    simp only [List.mapM_cons, result_bind, ih, result_pure]
    rfl

theorem result_map (m : Emission α) (f : α → β) : (f <$> m).result = m.result.map f := by
  rw [map_eq_pure_bind, result_bind]
  cases m.result <;> rfl

/-! ## Registrations -/

@[simp] theorem registered_pure (a : α) : (pure a : Emission α).registered = [] :=
  rfl

@[simp] theorem registered_liftM (e : Except Fault α) : (liftM e : Emission α).registered = [] :=
  rfl

@[simp] theorem registered_meet_registration (what : Registration) :
    (meet (.registration what)).registered = [what] :=
  rfl

@[simp] theorem registered_meet_note (note : Note) : (meet (.note note)).registered = [] :=
  rfl

theorem registered_bind_of_ok {m : Emission α} {a : α} (h : m.result = .ok a)
    (f : α → Emission β) : (m >>= f).registered = m.registered ++ (f a).registered := by
  simp only [registered, met_bind_of_ok h, registrationsOf_append]

@[simp] theorem registered_map (m : Emission α) (f : α → β) :
    (f <$> m).registered = m.registered := by
  obtain ⟨met, result⟩ := m
  cases result with
  | error fault => rfl
  | ok a => simp [map_eq_pure_bind, registered, Bind.bind, andThen, Pure.pure, value]

/-- If `m` completes, it has registered the members of `rs` and nothing else. -/
def Registers (m : Emission α) (rs : List Registration) : Prop :=
  ∀ a, m.result = .ok a → ∀ r, r ∈ m.registered ↔ r ∈ rs

namespace Registers

theorem pure (a : α) : (pure a : Emission α).Registers [] := by
  intro _ _ r
  simp

theorem liftM (e : Except Fault α) : (liftM e : Emission α).Registers [] := by
  intro _ _ r
  simp

theorem fail (fault : Fault) (rs : List Registration) :
    (fail fault : Emission α).Registers rs := by
  intro a h
  simp at h

theorem meet (what : Registration) : (meet (.registration what)).Registers [what] := by
  intro _ _ r
  simp

theorem note (note : Note) : (Emission.meet (.note note)).Registers [] := by
  intro _ _ r
  simp

/-- Only the members of the list matter. -/
theorem congr {m : Emission α} (rs : List Registration) {ss : List Registration}
    (h : m.Registers rs) (same : ∀ r, r ∈ rs ↔ r ∈ ss) : m.Registers ss := by
  intro a ha r
  rw [h a ha r, same r]

theorem bind {m : Emission α} {f : α → Emission β} {rs ss : List Registration}
    (hm : m.Registers rs) (hf : ∀ a, m.result = .ok a → (f a).Registers ss) :
    (m >>= f).Registers (rs ++ ss) := by
  intro b hb r
  obtain ⟨a, ha, hfa⟩ := result_bind_eq_ok.mp hb
  rw [registered_bind_of_ok ha, List.mem_append, List.mem_append, hm a ha r, hf a ha b hfa r]

/-- A step that registers nothing, in front of others. -/
theorem bind_quiet {m : Emission α} {f : α → Emission β} {rs : List Registration}
    (hm : m.Registers []) (hf : ∀ a, m.result = .ok a → (f a).Registers rs) :
    (m >>= f).Registers rs := by
  simpa using hm.bind hf

/-- A step that registers nothing, behind others. -/
theorem quiet_after {m : Emission α} {f : α → Emission β} {rs : List Registration}
    (hm : m.Registers rs) (hf : ∀ a, m.result = .ok a → (f a).Registers []) :
    (m >>= f).Registers rs := by
  simpa using hm.bind hf

theorem map {m : Emission α} {rs : List Registration} (hm : m.Registers rs) (f : α → β) :
    (f <$> m).Registers rs := by
  intro b hb r
  obtain ⟨a, ha, _⟩ := Except.map_eq_ok.mp (result_map m f ▸ hb)
  rw [registered_map, hm a ha r]

theorem mapM {f : α → Emission β} {rs : α → List Registration} {xs : List α}
    (h : ∀ x ∈ xs, (f x).Registers (rs x)) : (xs.mapM f).Registers (xs.flatMap rs) := by
  induction xs with
  | nil => simpa using pure (α := List β) []
  | cons x rest ih =>
    -- The first step registers its own, the others theirs, and putting the results together nothing.
    rw [List.mapM_cons, List.flatMap_cons]
    refine (h x List.mem_cons_self).bind fun y _ => ?_
    have tail := ih fun z hz => h z (List.mem_cons_of_mem _ hz)
    simpa using tail.bind fun ys _ => pure (y :: ys)

end Registers

/-! ## Sound emissions -/

theorem registered_bind_of_error {m : Emission α} {fault : Fault} (h : m.result = .error fault)
    (f : α → Emission β) : (m >>= f).registered = m.registered := by
  simp only [registered, met_bind_of_error h]

/-- Every fault of an emission is of the kind `P`, and a registry can look up what it registers until
it ends. -/
structure Sound (P : Fault → Prop) (m : Emission α) : Prop where
  faults : Except.FailsOnly P m.result
  plain : ∀ what ∈ m.registered, what.isPlain = true

namespace Sound

variable {P : Fault → Prop}

theorem pure (a : α) : (pure a : Emission α).Sound P :=
  ⟨Except.FailsOnly.ok a, by simp⟩

theorem liftM {e : Except Fault α} (h : Except.FailsOnly P e) : (liftM e : Emission α).Sound P :=
  ⟨h, by simp⟩

theorem fail {fault : Fault} (h : P fault) : (fail fault : Emission α).Sound P :=
  ⟨Except.FailsOnly.error h, by simp [Emission.fail, registered, registrationsOf]⟩

theorem meet {what : Registration} (plain : what.isPlain = true) :
    (Emission.meet (.registration what)).Sound P :=
  ⟨Except.FailsOnly.ok (), by simp [plain]⟩

theorem note (note : Note) : (Emission.meet (.note note)).Sound P :=
  ⟨Except.FailsOnly.ok (), by simp⟩

theorem bind {m : Emission α} {f : α → Emission β} (hm : m.Sound P)
    (hf : ∀ a, m.result = .ok a → (f a).Sound P) : (m >>= f).Sound P := by
  constructor
  · rw [result_bind]
    exact hm.faults.bind fun a ha => (hf a ha).faults
  · intro what hwhat
    cases hresult : m.result with
    | error fault =>
      rw [registered_bind_of_error hresult] at hwhat
      exact hm.plain what hwhat
    | ok a =>
      rw [registered_bind_of_ok hresult] at hwhat
      rcases List.mem_append.mp hwhat with first | later
      · exact hm.plain what first
      · exact (hf a hresult).plain what later

theorem map {m : Emission α} (hm : m.Sound P) (f : α → β) : (f <$> m).Sound P := by
  refine ⟨?_, ?_⟩
  · rw [result_map]
    exact hm.faults.map f
  · rw [registered_map]
    exact hm.plain

theorem mapM {f : α → Emission β} {xs : List α} (h : ∀ x ∈ xs, (f x).Sound P) :
    (xs.mapM f).Sound P := by
  induction xs with
  | nil => exact pure []
  | cons x rest ih =>
    rw [List.mapM_cons]
    refine (h x List.mem_cons_self).bind fun y _ => ?_
    have tail := ih fun z hz => h z (List.mem_cons_of_mem _ hz)
    exact tail.bind fun ys _ => pure (y :: ys)

end Sound
end Emission
end ClientBindings
