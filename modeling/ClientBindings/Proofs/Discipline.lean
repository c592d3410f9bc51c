import ClientBindings.Proofs.Independence

/-!
# Discipline — what a registry lets happen to it

A registry is filled by resolving types and by noting things down, in any order, and some of these
operations fail midway.  Whatever the order, its types are only ever added to, at the end and each
once.  Freezing it ends that: from then on whatever would note something down is refused before it
has changed anything, and the snapshot stays the same.

* `Operation`, `Operation.perform` — what can be done with a registry, and what comes of it;
* `Operation.first?` — the first thing that an operation notes down;
* `exists_enterAll_of_perform`, `perform_of_frozen` — one step, of an open and of a frozen registry;
* `Operation.after`, `Disciplined` — the registry after some operations, and what can be said of it;
* `disciplined` — every sequence of operations leaves that much to be said.
-/

namespace ClientBindings

/-- What can be done with a registry: resolve a type into it, note something down, or freeze it. -/
inductive Operation where
  | javaType (ty : Ty)
  | decoderName (ty : Ty)
  | defaultValue (ty : Ty)
  | javaTypeOrVoid (ty : Option Ty)
  | register (what : Registration)
  | freeze

/-- What an operation answers with. -/
inductive Reply where
  | resolved (text : String)
  | registered
  | frozen (snapshot : Snapshot)

namespace Registry

/-- Resolve into a registry. -/
def resolve (r : Registry) (m : Emission String) : Registry × Except Fault Reply :=
  let s := r.settle m
  (s.registry, s.result.map .resolved)

end Registry

namespace Operation

/-- The registry after an operation, which may fail, and the answer. -/
def perform (overrides : Overrides) (r : Registry) : Operation → Registry × Except Fault Reply
  | javaType ty => r.resolve ty.javaType
  | decoderName ty => r.resolve ty.decoderName
  | defaultValue ty => r.resolve (ty.defaultValue overrides)
  | javaTypeOrVoid ty => r.resolve (ClientBindings.javaTypeOrVoid ty)
  | register what =>
    match r.register what with
    | .ok r => (r, .ok .registered)
    | .error fault => (r, .error fault)
  | freeze =>
    let (r, snapshot) := r.freeze
    (r, .ok (.frozen snapshot))

/-- The first thing that an operation notes down, if it notes anything down: a type is noted down
before it is resolved. -/
def first? : Operation → Option Registration
  | javaType ty | decoderName ty | defaultValue ty => some (.type ty)
  | javaTypeOrVoid ty => ty.map .type
  | register what => some what
  | freeze => none

/-- The registry after some operations, one after the other. -/
def after (overrides : Overrides) (r : Registry) (ops : List Operation) : Registry :=
  ops.foldl (fun r op => (op.perform overrides r).1) r

end Operation

/-! ## Entering -/

namespace Registry

variable {α : Type} {r : Registry}

theorem types_prefix_enter (r : Registry) (what : Registration) :
    r.types <+: (r.enter what).types := by
  cases what with
  | type ty =>
    simp only [enter]
    split
    · exact List.prefix_refl _
    · exact List.prefix_append _ _
  | enum name values => exact List.prefix_refl _
  | record cls layout => exact List.prefix_refl _

theorem types_prefix_enterAll (r : Registry) (rs : List Registration) :
    r.types <+: (r.enterAll rs).types := by
  induction rs generalizing r with
  | nil => exact List.prefix_refl _
  | cons what rest ih => exact (types_prefix_enter r what).trans (ih (r.enter what))

theorem frozen_enterAll (r : Registry) (rs : List Registration) :
    (r.enterAll rs).frozen = r.frozen := by
  induction rs generalizing r with
  | nil => rfl
  | cons what rest ih => rw [enterAll_cons, ih, frozen_enter]

/-- What was met until an emission is refused is entered, and nothing else. -/
theorem exists_enterAll_of_absorb (r : Registry) (met : List Encounter) :
    ∃ rs, (r.absorb met).registry = r.enterAll rs := by
  induction met generalizing r with
  | nil => exact ⟨[], rfl⟩
  | cons e rest ih =>
    cases e with
    | note note => exact ih r
    | registration what =>
      cases hr : r.register what with
      | error fault =>
        refine ⟨[], ?_⟩
        simp only [absorb, hr, enterAll_nil]
      | ok r' =>
        obtain ⟨rs, hrs⟩ := ih r'
        refine ⟨what :: rs, ?_⟩
        simp only [absorb, hr, enterAll_cons]
        rw [hrs, register_eq_ok hr]

/-- A frozen registry refuses an emission at the first thing that it registers. -/
theorem resolve_of_frozen (frozen : r.frozen = true) {m : Emission String} {what : Registration}
    {rest : List Encounter} (first : m.met = .registration what :: rest) :
    r.resolve m = (r, .error (.registryFrozen what)) := by
  have refused : r.register what = .error (.registryFrozen what) := by simp [register, frozen]
  simp [resolve, settle, first, absorb, refused, Except.map]

end Registry

/-! ## One operation -/

namespace Operation

variable {overrides : Overrides} {r : Registry} {op : Operation}

/-- Short of freezing it, all that an operation does to a registry is to enter something. -/
theorem exists_enterAll_of_perform (overrides : Overrides) (r : Registry) (op : Operation)
    (open' : op ≠ .freeze) : ∃ rs, (op.perform overrides r).1 = r.enterAll rs := by
  have resolved : ∀ m, ∃ rs, (r.resolve m).1 = r.enterAll rs := by
    intro m
    obtain ⟨rs, hrs⟩ := r.exists_enterAll_of_absorb m.met
    exact ⟨rs, (Registry.settle_eq r m).2.trans hrs⟩
  cases op with
  | javaType ty => exact resolved _
  | decoderName ty => exact resolved _
  | defaultValue ty => exact resolved _
  | javaTypeOrVoid ty => exact resolved _
  | register what =>
    cases hr : r.register what with
    | ok r' => exact ⟨[what], by simp only [perform, hr]; exact Registry.register_eq_ok hr⟩
    | error fault => exact ⟨[], by simp only [perform, hr, Registry.enterAll_nil]⟩
  | freeze => exact absurd rfl open'

/-- A frozen registry refuses whatever would note something down, and stays as it is. -/
theorem perform_of_frozen (frozen : r.frozen = true) {what : Registration}
    (first : op.first? = some what) :
    op.perform overrides r = (r, .error (.registryFrozen what)) := by
  cases op with
  | javaType ty =>
    obtain ⟨rest, met⟩ := ty.isResolution_javaType.first
    rw [← Option.some.inj first]
    exact Registry.resolve_of_frozen frozen met
  | decoderName ty =>
    obtain ⟨rest, met⟩ := ty.isResolution_decoderName.first
    rw [← Option.some.inj first]
    exact Registry.resolve_of_frozen frozen met
  | defaultValue ty =>
    obtain ⟨rest, met⟩ := (ty.isResolution_defaultValue overrides).first
    rw [← Option.some.inj first]
    exact Registry.resolve_of_frozen frozen met
  | javaTypeOrVoid ty =>
    cases ty with
    | none => simp [first?] at first
    | some ty =>
      obtain ⟨rest, met⟩ := ty.isResolution_javaType.first
      rw [← Option.some.inj first]
      exact Registry.resolve_of_frozen frozen met
  | register other =>
    rw [Option.some.inj first]
    simp [perform, Registry.register, frozen]
  | freeze => simp [first?] at first

/-- Nothing changes a frozen registry. -/
theorem registry_of_frozen (frozen : r.frozen = true) (op : Operation) :
    (op.perform overrides r).1 = r := by
  cases first : op.first? with
  | some what => rw [perform_of_frozen frozen first]
  | none =>
    -- What notes nothing down resolves no type, or freezes once more.
    cases op with
    | javaTypeOrVoid ty =>
      cases ty with
      | none => rfl
      | some ty => simp [first?] at first
    | freeze =>
      obtain ⟨enums, records, types, _⟩ := r
      simp only at frozen
      simp [perform, Registry.freeze, frozen]
    | _ => simp [first?] at first

/-- An open registry refuses nothing for being frozen. -/
theorem perform_ne_registryFrozen (opened : r.frozen = false) (op : Operation)
    (what : Registration) : (op.perform overrides r).2 ≠ .error (.registryFrozen what) := by
  have settled : ∀ m : Emission String,
      Except.FailsOnly (fun fault => fault ≠ .registryFrozen what) m.settled →
        (r.resolve m).2 ≠ .error (.registryFrozen what) := by
    intro m faults failed
    rw [← (Emission.settle_of_open opened m).1] at faults
    exact faults.map Reply.resolved _ failed rfl
  have resolved : ∀ (ty : Ty) (m : Emission String), ty.IsResolution m →
      (r.resolve m).2 ≠ .error (.registryFrozen what) := by
    intro ty m resolution
    refine settled m ?_
    rw [resolution.settled_eq]
    split
    · next plain => exact (resolution.sound ⟨plain, by simp⟩ (by simp)).faults
    · exact Except.FailsOnly.error (by simp)
  cases op with
  | javaType ty => exact resolved ty _ ty.isResolution_javaType
  | decoderName ty => exact resolved ty _ ty.isResolution_decoderName
  | defaultValue ty => exact resolved ty _ (ty.isResolution_defaultValue overrides)
  | javaTypeOrVoid ty =>
    cases ty with
    | none => exact settled _ (Except.FailsOnly.ok _)
    | some ty => exact resolved ty _ ty.isResolution_javaType
  | register other =>
    simp only [perform, Registry.register_of_open opened]
    cases other.isPlain <;> simp
  | freeze => simp [perform]

theorem apart_perform (h : r.Apart) (op : Operation) : (op.perform overrides r).1.Apart := by
  by_cases frozen : op = .freeze
  · subst frozen
    exact h
  · obtain ⟨rs, hrs⟩ := exists_enterAll_of_perform overrides r op frozen
    rw [hrs]
    exact Registry.apart_enterAll h rs

theorem types_prefix_perform (r : Registry) (op : Operation) :
    r.types <+: (op.perform overrides r).1.types := by
  by_cases frozen : op = .freeze
  · subst frozen
    exact List.prefix_refl _
  · obtain ⟨rs, hrs⟩ := exists_enterAll_of_perform overrides r op frozen
    rw [hrs]
    exact Registry.types_prefix_enterAll r rs

/-- Only freezing freezes. -/
theorem frozen_perform (overrides : Overrides) (r : Registry) (open' : op ≠ .freeze) :
    (op.perform overrides r).1.frozen = r.frozen := by
  obtain ⟨rs, hrs⟩ := exists_enterAll_of_perform overrides r op open'
  rw [hrs, Registry.frozen_enterAll]

/-! ## Sequences of operations -/

section Sequences

variable {ops later : List Operation}

theorem after_append (overrides : Overrides) (r : Registry) (ops later : List Operation) :
    after overrides r (ops ++ later) = after overrides (after overrides r ops) later :=
  List.foldl_append

theorem apart_after (h : r.Apart) (ops : List Operation) : (after overrides r ops).Apart := by
  induction ops generalizing r with
  | nil => exact h
  | cons op rest ih => exact ih (apart_perform h op)

theorem types_prefix_after (r : Registry) (ops : List Operation) :
    r.types <+: (after overrides r ops).types := by
  induction ops generalizing r with
  | nil => exact List.prefix_refl _
  | cons op rest ih => exact (types_prefix_perform r op).trans (ih _)

theorem after_of_frozen (frozen : r.frozen = true) (ops : List Operation) :
    after overrides r ops = r := by
  induction ops with
  | nil => rfl
  | cons op rest ih =>
    have same : after overrides r (op :: rest) = after overrides (op.perform overrides r).1 rest := rfl
    rw [same, registry_of_frozen frozen, ih]

theorem frozen_after_of_not_mem (h : .freeze ∉ ops) :
    (after overrides r ops).frozen = r.frozen := by
  induction ops generalizing r with
  | nil => rfl
  | cons op rest ih =>
    have first : op ≠ .freeze := fun same => h (same ▸ List.mem_cons_self)
    have tail := ih (r := (op.perform overrides r).1) fun there => h (List.mem_cons_of_mem _ there)
    exact tail.trans (frozen_perform overrides r first)

/-- The registry that is frozen first is the one that stays. -/
theorem after_freeze (overrides : Overrides) (r : Registry) (before later : List Operation) :
    after overrides r (before ++ .freeze :: later) = (after overrides r before).freeze.1 := by
  have frozen : (after overrides r before).freeze.1.frozen = true := rfl
  rw [after_append]
  exact after_of_frozen frozen later

end Sequences
end Operation

/-! ## Discipline -/

/-- What can be said of an empty registry after some operations. -/
structure Disciplined (overrides : Overrides) (ops : List Operation) : Prop where
  /-- No two types are the same. -/
  apart : (Operation.after overrides .empty ops).types.Pairwise fun s t => ¬s.sameType t
  /-- Types that were there earlier are still there, in front of all others. -/
  grows : ∀ before later, ops = before ++ later →
    (Operation.after overrides .empty before).types <+: (Operation.after overrides .empty ops).types
  /-- Until it is frozen, nothing is refused for its being frozen. -/
  opened : Operation.freeze ∉ ops → ∀ (op : Operation) (what : Registration),
    (op.perform overrides (Operation.after overrides .empty ops)).2 ≠ .error (.registryFrozen what)
  /-- From then on, whatever notes something down is refused, and leaves the registry as it is. -/
  refuses : Operation.freeze ∈ ops → ∀ (op : Operation) (what : Registration),
    op.first? = some what →
      op.perform overrides (Operation.after overrides .empty ops) =
        (Operation.after overrides .empty ops, .error (.registryFrozen what))
  /-- The snapshot is the one that was taken first. -/
  keeps : ∀ before later, ops = before ++ Operation.freeze :: later → Operation.freeze ∉ before →
    ∃ snapshot,
      (Operation.freeze.perform overrides (Operation.after overrides .empty before)).2 =
        .ok (.frozen snapshot) ∧
      (Operation.freeze.perform overrides (Operation.after overrides .empty ops)).2 =
        .ok (.frozen snapshot)

/-- Registries are disciplined, whatever is done with them in whatever order. -/
theorem disciplined (overrides : Overrides) (ops : List Operation) : Disciplined overrides ops := by
  refine ⟨Operation.apart_after (r := .empty) List.Pairwise.nil ops, ?_, ?_, ?_, ?_⟩
  · rintro before later rfl
    rw [Operation.after_append]
    exact Operation.types_prefix_after _ later
  · intro open' op what
    have opened : (Operation.after overrides .empty ops).frozen = false :=
      Operation.frozen_after_of_not_mem open'
    exact Operation.perform_ne_registryFrozen opened op what
  · intro frozen op what first
    obtain ⟨before, later, rfl⟩ := List.append_of_mem frozen
    rw [Operation.after_freeze]
    exact Operation.perform_of_frozen rfl first
  · rintro before later rfl _
    refine ⟨(Operation.after overrides .empty before).freeze.2, rfl, ?_⟩
    rw [Operation.after_freeze]
    rfl

end ClientBindings
