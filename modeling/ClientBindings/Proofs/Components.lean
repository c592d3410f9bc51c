import ClientBindings.Proofs.Discipline
import ClientBindings.Proofs.Presentable

/-!
# Components — what a registry knows of the types that are resolved into it

Resolving a type meets the type and all its parts, from the outside in.  The ways to resolve it differ
in what they make of it: the default of a collection needs the types inside it, that of a reference
needs nothing more, and a record has none, so looking for it fails.  What has been met by then is the
same each time.  A type that cannot be looked up is the exception: it is refused before anything is
noted down.

So a registry that starts empty holds the types that were met, and with a type its components; and it
holds the enumerations among them, each with the values that it was met with last.

* `Operation.met` — the types that an operation meets, in order;
* `registry_perform` — one operation, whether it fails or not; `registry_after` — a sequence;
* `Registry.Reflects` — what a registry holds of the types that were met;
* `reflects_after` — so does an empty one, after any sequence of operations that resolve types.
-/

namespace ClientBindings

/-! ## Resolving a type -/

namespace Ty

variable {ty : Ty} {r : Registry} {m : Emission String}

/-- The types that are met when a type is resolved: its parts, unless it cannot be looked up. -/
def met (ty : Ty) : List Ty :=
  if ty.isPlain then ty.parts else []

theorem javaType_registered (scalars : ty.HasScalars) (plain : ty.isPlain = true) :
    ty.javaType.registered = ty.registrations := by
  have sound : ty.javaType.Sound fun _ => False := javaType_sound (apt_of_hasScalars scalars plain)
  rcases exists_ok_of_sound sound with ⟨name, made⟩
  exact registered_javaType made

theorem decoderName_registered (scalars : ty.HasScalars) (plain : ty.isPlain = true) :
    ty.decoderName.registered = ty.registrations := by
  have sound : ty.decoderName.Sound fun _ => False :=
    decoderName_sound (apt_of_hasScalars scalars plain)
  rcases exists_ok_of_sound sound with ⟨name, made⟩
  exact registered_decoderName made

/-- A record under options has no default; any other type has one. -/
theorem defaultValue_registered (overrides : Overrides) (scalars : ty.HasScalars)
    (plain : ty.isPlain = true) : (ty.defaultValue overrides).registered = ty.registrations := by
  by_cases bare : ty.isBare = true
  · rcases isBare_iff.mp bare with ⟨cls, same⟩
    exact registered_defaultValue_of_record overrides same
  · have sound : (ty.defaultValue overrides).Sound fun _ => False := by
      refine defaultValue_sound (apt_of_hasScalars scalars plain) ?_ overrides
      intro cls same
      exact bare (isBare_iff.mpr ⟨cls, same⟩)
    rcases exists_ok_of_sound sound with ⟨literal, made⟩
    exact registered_defaultValue made

/-- A type that cannot be looked up is what an open registry refuses first. -/
theorem IsResolution.registry_of_not_plain (h : ty.IsResolution m) (unplain : ty.isPlain = false)
    (opened : r.frozen = false) : (r.settle m).registry = r := by
  rcases h.first with ⟨rest, first⟩
  have refused : r.register (.type ty) = .error .notAName := by
    simp [Registry.register_of_open opened, Registration.isPlain, unplain]
  rw [(Registry.settle_eq r m).2, first]
  simp [Registry.absorb, refused]

/-- Whatever a resolution comes to, an open registry has entered the types that are met. -/
theorem IsResolution.registry_settle (h : ty.IsResolution m)
    (registered : ty.isPlain = true → m.registered = ty.registrations)
    (opened : r.frozen = false) :
    (r.settle m).registry = r.enterAll (ty.met.flatMap entries) := by
  by_cases plain : ty.isPlain = true
  · have apt : ty.Apt fun _ => True := ⟨plain, fun _ _ _ => trivial⟩
    have sound : m.Sound fun _ => True := h.sound apt fun _ => trivial
    rw [Registry.registry_settle_of_plain opened (List.all_eq_true.mpr sound.plain),
      registered plain, met, if_pos plain]
    rfl
  · have unplain : ty.isPlain = false := Bool.eq_false_iff.mpr plain
    rw [h.registry_of_not_plain unplain opened, met, if_neg plain]
    rfl

end Ty

/-! ## Operations -/

namespace Operation

variable {overrides : Overrides} {r : Registry} {op : Operation} {ops : List Operation}

/-- Whether an operation resolves what it is given; the others write to the registry themselves. -/
def resolves : Operation → Bool
  | register _ | freeze => false
  | _ => true

/-- The types that an operation resolves. -/
def types : Operation → List Ty
  | javaType ty | decoderName ty | defaultValue ty => [ty]
  | javaTypeOrVoid ty => ty.toList
  | register _ | freeze => []

/-- The types that an operation meets, from the outside in. -/
def met (op : Operation) : List Ty :=
  op.types.flatMap Ty.met

/-- One operation enters the types that it meets, also if it fails. -/
theorem registry_perform (opened : r.frozen = false) (resolves : op.resolves = true)
    (scalars : ∀ ty ∈ op.types, ty.HasScalars) :
    (op.perform overrides r).1 = r.enterAll (op.met.flatMap Ty.entries) := by
  -- The ways to resolve a type differ in what it takes to know what they have registered.
  have enters : ∀ {ty : Ty} {m : Emission String}, ty.IsResolution m →
      (ty.isPlain = true → m.registered = ty.registrations) →
        (r.settle m).registry = r.enterAll (([ty].flatMap Ty.met).flatMap Ty.entries) := by
    intro ty m resolution registered
    rw [List.flatMap_singleton]
    exact resolution.registry_settle registered opened
  cases op with
  | javaType ty =>
    have known : ty.HasScalars := scalars ty List.mem_cons_self
    exact enters ty.isResolution_javaType (Ty.javaType_registered known)
  | decoderName ty =>
    have known : ty.HasScalars := scalars ty List.mem_cons_self
    exact enters ty.isResolution_decoderName (Ty.decoderName_registered known)
  | defaultValue ty =>
    have known : ty.HasScalars := scalars ty List.mem_cons_self
    exact enters (ty.isResolution_defaultValue overrides) (Ty.defaultValue_registered overrides known)
  | javaTypeOrVoid ty =>
    cases ty with
    | none => rfl
    | some ty =>
      have known : ty.HasScalars := scalars ty List.mem_cons_self
      exact enters ty.isResolution_javaType (Ty.javaType_registered known)
  | register what => cases resolves
  | freeze => cases resolves

/-- A sequence of operations enters the types that they meet, one after the other. -/
theorem registry_after (opened : r.frozen = false) (resolves : ∀ op ∈ ops, op.resolves = true)
    (scalars : ∀ op ∈ ops, ∀ ty ∈ op.types, ty.HasScalars) :
    after overrides r ops = r.enterAll ((ops.flatMap met).flatMap Ty.entries) := by
  induction ops generalizing r with
  | nil => rfl
  | cons op rest ih =>
    have first : (op.perform overrides r).1 = r.enterAll (op.met.flatMap Ty.entries) :=
      registry_perform opened (resolves op List.mem_cons_self) (scalars op List.mem_cons_self)
    -- The registry stays open, so the operations behind find it as this one did.
    have stays : (op.perform overrides r).1.frozen = false := by
      rw [first, Registry.frozen_enterAll, opened]
    calc after overrides r (op :: rest)
        = after overrides (op.perform overrides r).1 rest := rfl
      _ = (op.perform overrides r).1.enterAll ((rest.flatMap met).flatMap Ty.entries) := by
          apply ih stays
          · exact fun other hother => resolves other (List.mem_cons_of_mem _ hother)
          · exact fun other hother => scalars other (List.mem_cons_of_mem _ hother)
      _ = r.enterAll (((op :: rest).flatMap met).flatMap Ty.entries) := by
          rw [first, ← Registry.enterAll_append, List.flatMap_cons, List.flatMap_append]

theorem mem_met {part : Ty} : part ∈ ops.flatMap met ↔
    ∃ op ∈ ops, ∃ ty ∈ op.types, ty.isPlain = true ∧ part ∈ ty.parts := by
  simp [met, Ty.met]

/-- With a type, its components are met. -/
theorem component_mem_met {ty part : Ty} (h : ty ∈ ops.flatMap met) (component : part ∈ ty.components) :
    part ∈ ops.flatMap met := by
  rcases mem_met.mp h with ⟨op, hop, root, hroot, plain, hty⟩
  have inside : part ∈ root.parts := Ty.mem_parts_trans (Ty.mem_parts_of_component component) hty
  exact mem_met.mpr ⟨op, hop, root, hroot, plain, inside⟩

end Operation

/-! ## Registries -/

namespace Registry

/-- What a registry holds of the types that were met, in their order. -/
structure Reflects (r : Registry) (met : List Ty) : Prop where
  /-- Types that were met are registered, and no others. -/
  types : (∀ ty ∈ met, r.hasType ty = true) ∧ ∀ ty ∈ r.types, ty ∈ met
  /-- With a type, its components are registered. -/
  components : ∀ ty ∈ r.types, ∀ part ∈ ty.components, r.hasType part = true
  /-- The enumerations that have values are those that are registered as types. -/
  names : ∀ name, name ∈ r.enums.names ↔ ∃ values, .enum name values ∈ r.types
  /-- An enumeration has the values that it was met with last. -/
  values : ∀ name ∈ r.enums.names, ∃ before values after,
    met = before ++ .enum name values :: after ∧ (∀ others, .enum name others ∉ after) ∧
      r.enums.get? name = some values

variable {met : List Ty}

theorem type_mem_entries_iff {ty : Ty} : .type ty ∈ met.flatMap Ty.entries ↔ ty ∈ met := by
  simp [List.mem_flatMap, Ty.type_mem_entries]

theorem enum_mem_entries_iff {name : String} {values : List EnumValue} :
    .enum name values ∈ met.flatMap Ty.entries ↔ .enum name values ∈ met := by
  simp [List.mem_flatMap, Ty.enum_mem_entries]

theorem hasType_of_mem_met {ty : Ty} (h : ty ∈ met) :
    (empty.enterAll (met.flatMap Ty.entries)).hasType ty = true := by
  rcases exists_same_of_enterAll (r := empty) (type_mem_entries_iff.mpr h) with ⟨other, there, same⟩
  exact List.any_eq_true.mpr ⟨other, there, same⟩

theorem mem_met_of_mem_types {ty : Ty} (h : ty ∈ (empty.enterAll (met.flatMap Ty.entries)).types) :
    ty ∈ met := by
  rcases mem_types_enterAll h with old | registered
  · cases old
  · exact type_mem_entries_iff.mp registered

/-- Types that are the same are enumerations of one name, if they are enumerations. -/
theorem exists_enum_of_sameType {name : String} {values : List EnumValue} {other : Ty}
    (same : (Ty.enum name values).sameType other = true) : ∃ others, other = .enum name others := by
  cases other with
  | enum named others =>
    have canonical := Ty.enum.inj (of_decide_eq_true same)
    exact ⟨others, by rw [canonical.1]⟩
  | _ => cases of_decide_eq_true same

theorem reflects_enterAll (closed : ∀ ty ∈ met, ∀ part ∈ ty.components, part ∈ met) :
    (empty.enterAll (met.flatMap Ty.entries)).Reflects met := by
  have named : ∀ {name}, name ∈ (empty.enterAll (met.flatMap Ty.entries)).enums.names ↔
      ∃ values, .enum name values ∈ met := by
    intro name
    simp only [mem_enum_names_enterAll, enum_mem_entries_iff]
    simp [empty, Table.names]
  refine ⟨⟨fun ty => hasType_of_mem_met, fun ty => mem_met_of_mem_types⟩, ?_, ?_, ?_⟩
  · intro ty hty part component
    exact hasType_of_mem_met (closed ty (mem_met_of_mem_types hty) part component)
  · intro name
    rw [named]
    constructor
    · rintro ⟨values, there⟩
      rcases List.any_eq_true.mp (hasType_of_mem_met there) with ⟨other, registered, same⟩
      rcases exists_enum_of_sameType same with ⟨others, rfl⟩
      exact ⟨others, registered⟩
    · rintro ⟨values, registered⟩
      exact ⟨values, mem_met_of_mem_types registered⟩
  · intro name hname
    rcases named.mp hname with ⟨values, there⟩
    rcases exists_last (p := fun ty => ∃ values, ty = .enum name values) ⟨_, there, values, rfl⟩ with
      ⟨before, _, after, rfl, ⟨last, rfl⟩, none⟩
    have later : ∀ others, .enum name others ∉ after := fun others h => none _ h ⟨others, rfl⟩
    refine ⟨before, last, after, rfl, later, ?_⟩
    -- The type is entered in front of its values, and nothing behind them has the name.
    have split : (before ++ Ty.enum name last :: after).flatMap Ty.entries =
        (before.flatMap Ty.entries ++ [.type (.enum name last)]) ++
          .enum name last :: after.flatMap Ty.entries := by
      simp [Ty.entries]
    rw [split]
    apply get?_enums_of_last
    intro others h
    exact later others (enum_mem_entries_iff.mp h)

end Registry

/-- Whatever types are resolved into an empty registry, in whatever way and order, it reflects the
types that were met. -/
theorem reflects_after (overrides : Overrides) {ops : List Operation}
    (resolves : ∀ op ∈ ops, op.resolves = true)
    (scalars : ∀ op ∈ ops, ∀ ty ∈ op.types, ty.HasScalars) :
    (Operation.after overrides .empty ops).Reflects (ops.flatMap Operation.met) := by
  rw [Operation.registry_after rfl resolves scalars]
  apply Registry.reflects_enterAll
  intro ty hty part component
  exact Operation.component_mem_met hty component

namespace Sample

/-- Resolutions of two enumerations of one name, between which the default of a record is looked for. -/
def resolutions : List Operation :=
  [.javaType (.set (.enum "power_state" [⟨.text "halted", .text ""⟩])),
    .defaultValue (.option (.record "vm")),
    .decoderName (.map (.scalar .int) (.option (.enum "power_state" [⟨.text "running", .text ""⟩]))),
    .javaTypeOrVoid none]

theorem hasScalars_resolutions : ∀ op ∈ resolutions, ∀ ty ∈ op.types, ty.HasScalars := by
  have counted : ∃ s : Scalar, Scalar.int.name = s.name := ⟨.int, rfl⟩
  intro op hop
  simp only [resolutions, List.mem_cons, List.not_mem_nil, or_false] at hop
  rcases hop with rfl | rfl | rfl | rfl
  · simp [Operation.types, Ty.HasScalars, Ty.parts]
  · simp [Operation.types, Ty.HasScalars, Ty.parts]
  · simp [Operation.types, Ty.HasScalars, Ty.parts, Ty.scalar, counted]
  · simp [Operation.types]

end Sample

/-- The default fails, and the registry holds what was met until then and behind it. -/
theorem reflects_after_resolutions :
    ((Operation.defaultValue (.option (.record "vm"))).perform Config.defaultOverrides .empty).2 =
        .error (.recordWithoutDefault "vm") ∧
      (∀ op ∈ Sample.resolutions, op.resolves = true) ∧
      (∀ op ∈ Sample.resolutions, ∀ ty ∈ op.types, ty.HasScalars) ∧
      (Operation.after Config.defaultOverrides .empty Sample.resolutions).Reflects
        (Sample.resolutions.flatMap Operation.met) := by
  have resolves : ∀ op ∈ Sample.resolutions, op.resolves = true := by decide
  have reflects := reflects_after Config.defaultOverrides resolves Sample.hasScalars_resolutions
  exact ⟨rfl, resolves, Sample.hasScalars_resolutions, reflects⟩

end ClientBindings
