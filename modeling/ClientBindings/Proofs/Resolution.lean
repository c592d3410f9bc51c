import ClientBindings.Proofs.Emission
import ClientBindings.Resolution

/-!
# Resolution — what resolving a type registers

Resolving a type to its name, its decoder or its default goes through all its parts, from the
outside in.  Where it completes, each part has been registered once, and an enumeration with its
values right after it.

* `Ty.parts` — a type and the types it is made of;
* `Ty.registrations` — what is registered for a type;
* `registered_javaType`, `registered_defaultValue` — that much, and in that order;
* `mem_parts_trans` — the parts of a part are parts;
* `Ty.Apt`, `javaType_sound`, `defaultValue_sound` — what can keep a type from being resolved;
* `Ty.IsResolution` — what the three ways to resolve a type have in common.
-/

namespace ClientBindings

theorem Scalar.ofName?_name (s : Scalar) : ofName? s.name = some s := by
  cases s <;> decide

namespace Ty

/-! ## Parts -/

/-- A type and the types it is made of, from the outside in. -/
def parts : Ty → List Ty
  | set item => set item :: item.parts
  | map key value => map key value :: (key.parts ++ value.parts)
  | option inner => option inner :: inner.parts
  | primitive kind => [primitive kind]
  | enum name values => [enum name values]
  | ref cls => [ref cls]
  | record cls => [record cls]

theorem self_mem_parts (ty : Ty) : ty ∈ ty.parts := by
  cases ty <;> simp [parts]

theorem item_mem_parts (item : Ty) : item ∈ (set item).parts :=
  List.mem_cons_of_mem _ item.self_mem_parts

theorem inner_mem_parts (inner : Ty) : inner ∈ (option inner).parts :=
  List.mem_cons_of_mem _ inner.self_mem_parts

theorem key_mem_parts (key value : Ty) : key ∈ (map key value).parts :=
  List.mem_cons_of_mem _ (List.mem_append_left _ key.self_mem_parts)

theorem value_mem_parts (key value : Ty) : value ∈ (map key value).parts :=
  List.mem_cons_of_mem _ (List.mem_append_right _ value.self_mem_parts)

theorem mem_parts_trans {s t u : Ty} (hs : s ∈ t.parts) (ht : t ∈ u.parts) : s ∈ u.parts := by
  induction u with
  | set item ih =>
    rcases List.mem_cons.mp ht with rfl | ht
    · exact hs
    · exact List.mem_cons_of_mem _ (ih ht)
  | map key value ihKey ihValue =>
    rcases List.mem_cons.mp ht with rfl | ht
    · exact hs
    · refine List.mem_cons_of_mem _ (List.mem_append.mpr ?_)
      exact (List.mem_append.mp ht).imp ihKey ihValue
  | option inner ih =>
    rcases List.mem_cons.mp ht with rfl | ht
    · exact hs
    · exact List.mem_cons_of_mem _ (ih ht)
  | primitive kind => exact List.mem_singleton.mp ht ▸ hs
  | enum name values => exact List.mem_singleton.mp ht ▸ hs
  | ref cls => exact List.mem_singleton.mp ht ▸ hs
  | record cls => exact List.mem_singleton.mp ht ▸ hs

theorem eraseOption_mem_parts (ty : Ty) : ty.eraseOption ∈ ty.parts := by
  induction ty with
  | option inner ih => exact List.mem_cons_of_mem _ ih
  | _ => exact self_mem_parts _

/-- The types that a type is made of at once. -/
def components : Ty → List Ty
  | set item => [item]
  | map key value => [key, value]
  | option inner => [inner]
  | primitive _ | enum _ _ | ref _ | record _ => []

theorem mem_parts_of_component {part ty : Ty} (h : part ∈ ty.components) : part ∈ ty.parts := by
  cases ty with
  | set item => exact List.mem_singleton.mp h ▸ item_mem_parts item
  | map key value =>
    rcases List.mem_pair.mp h with rfl | rfl
    · exact key_mem_parts _ _
    · exact value_mem_parts _ _
  | option inner => exact List.mem_singleton.mp h ▸ inner_mem_parts inner
  | _ => cases h

/-! ## Registrations -/

/-- What is registered when a type is met, its parts left out. -/
def entries : Ty → List Registration
  | enum name values => [.type (enum name values), .enum name values]
  | ty => [.type ty]

/-- What is registered for a type and its parts. -/
def registrations (ty : Ty) : List Registration :=
  ty.parts.flatMap entries

theorem type_mem_entries {s t : Ty} : .type s ∈ t.entries ↔ s = t := by
  cases t <;> simp [entries]

theorem enum_mem_entries {name : String} {values : List EnumValue} {t : Ty} :
    .enum name values ∈ t.entries ↔ t = enum name values := by
  cases t <;> simp [entries, eq_comm]

theorem record_not_mem_entries {cls : Json} {layout : List (String × Ty)} {t : Ty} :
    .record cls layout ∉ t.entries := by
  cases t <;> simp [entries]

theorem type_mem_registrations {s t : Ty} : .type s ∈ t.registrations ↔ s ∈ t.parts := by
  simp [registrations, type_mem_entries]

theorem enum_mem_registrations {name : String} {values : List EnumValue} {t : Ty} :
    .enum name values ∈ t.registrations ↔ enum name values ∈ t.parts := by
  simp [registrations, enum_mem_entries]

theorem record_not_mem_registrations {cls : Json} {layout : List (String × Ty)} {t : Ty} :
    .record cls layout ∉ t.registrations := by
  simp [registrations, record_not_mem_entries]

/-! ## Resolving -/

theorem result_meet (ty : Ty) : ty.meet.result = .ok () := by
  cases ty <;> rfl

theorem registered_meet (ty : Ty) : ty.meet.registered = ty.entries := by
  cases ty <;> rfl

/-- A type is met before anything else is done with it. -/
theorem registered_meet_bind {α : Type} (ty : Ty) (f : Unit → Emission α) :
    (ty.meet >>= f).registered = ty.entries ++ (f ()).registered := by
  rw [Emission.registered_bind_of_ok ty.result_meet, registered_meet]

theorem result_meet_bind {α : Type} (ty : Ty) (f : Unit → Emission α) :
    (ty.meet >>= f).result = (f ()).result := by
  rw [Emission.result_bind, result_meet]
  rfl

/-- Options do not change a default. -/
theorem result_defaultValue_eraseOption (overrides : Overrides) (ty : Ty) :
    (ty.defaultValue overrides).result = (ty.eraseOption.defaultValue overrides).result := by
  induction ty with
  | option inner ih =>
    rw [defaultValue, result_meet_bind]
    exact ih
  | _ => rfl

theorem registered_ofScalar {f : Scalar → String} {kind : String} :
    (ofScalar f kind).registered = [] := by
  unfold ofScalar
  cases Scalar.ofName? kind <;> rfl

theorem registered_javaType {ty : Ty} {name : String} (h : ty.javaType.result = .ok name) :
    ty.javaType.registered = ty.registrations := by
  induction ty generalizing name with
  | primitive kind =>
    simp [javaType, registered_meet_bind, registered_ofScalar, registrations, parts]
  | set item ih =>
    simp only [javaType, result_meet_bind] at h
    obtain ⟨inner, hinner, _⟩ := Emission.result_bind_eq_ok.mp h
    simp [javaType, registered_meet_bind, ih hinner, registrations, parts]
  | map key value ihKey ihValue =>
    -- The value is resolved only once the key has been.
    simp only [javaType, result_meet_bind] at h
    obtain ⟨first, hfirst, h⟩ := Emission.result_bind_eq_ok.mp h
    obtain ⟨second, hsecond, _⟩ := Emission.result_bind_eq_ok.mp h
    simp [javaType, registered_meet_bind, Emission.registered_bind_of_ok hfirst, ihKey hfirst,
      ihValue hsecond, registrations, parts]
  | option inner ih =>
    simp only [javaType, result_meet_bind] at h
    simp [javaType, registered_meet_bind, ih h, registrations, parts]
  | enum enumName values => simp [javaType, registered_meet, registrations, parts]
  | ref cls => simp [javaType, registered_meet, registrations, parts]
  | record cls => simp [javaType, registered_meet, registrations, parts]

theorem registered_defaultValue {overrides : Overrides} {ty : Ty} {literal : String}
    (h : (ty.defaultValue overrides).result = .ok literal) :
    (ty.defaultValue overrides).registered = ty.registrations := by
  induction ty generalizing literal with
  | primitive kind =>
    simp [defaultValue, registered_meet_bind, registered_ofScalar, registrations, parts]
  | set item ih =>
    simp only [defaultValue, result_meet_bind] at h
    obtain ⟨inner, hinner, _⟩ := Emission.result_bind_eq_ok.mp h
    simp [defaultValue, registered_meet_bind, registered_javaType hinner, registrations, parts]
  | map key value ihKey ihValue =>
    simp only [defaultValue, result_meet_bind] at h
    obtain ⟨first, hfirst, h⟩ := Emission.result_bind_eq_ok.mp h
    obtain ⟨second, hsecond, _⟩ := Emission.result_bind_eq_ok.mp h
    simp [defaultValue, registered_meet_bind, Emission.registered_bind_of_ok hfirst,
      registered_javaType hfirst, registered_javaType hsecond, registrations, parts]
  | option inner ih =>
    simp only [defaultValue, result_meet_bind] at h
    simp [defaultValue, registered_meet_bind, ih h, registrations, parts]
  | enum enumName values => simp [defaultValue, registered_meet, registrations, parts]
  | ref cls => simp [defaultValue, registered_meet, registrations, parts]
  -- There is no default for a record.
  | record cls => simp [defaultValue, result_meet_bind] at h

/-- Looking for the default of a record ends behind its options, and by then they are registered. -/
theorem registered_defaultValue_of_record (overrides : Overrides) {ty : Ty} {cls : String}
    (bare : ty.eraseOption = record cls) :
    (ty.defaultValue overrides).registered = ty.registrations := by
  induction ty with
  | option inner ih =>
    have tail := ih bare
    simp [defaultValue, registered_meet_bind, tail, registrations, parts]
  | record other =>
    have fails : (Emission.fail (.recordWithoutDefault other) : Emission String).registered = [] := rfl
    simp [defaultValue, registered_meet_bind, fails, registrations, parts]
  | _ => cases bare

theorem registered_decoderSuffix {ty : Ty} {name : String} (h : ty.decoderSuffix.result = .ok name) :
    ty.decoderSuffix.registered = ty.registrations := by
  induction ty generalizing name with
  | primitive kind =>
    simp [decoderSuffix, registered_meet_bind, registered_ofScalar, registrations, parts]
  | set item ih =>
    simp only [decoderSuffix, result_meet_bind] at h
    rcases Emission.result_bind_eq_ok.mp h with ⟨inner, hinner, _⟩
    simp [decoderSuffix, registered_meet_bind, ih hinner, registrations, parts]
  | map key value ihKey ihValue =>
    simp only [decoderSuffix, result_meet_bind] at h
    rcases Emission.result_bind_eq_ok.mp h with ⟨first, hfirst, h⟩
    rcases Emission.result_bind_eq_ok.mp h with ⟨second, hsecond, _⟩
    simp [decoderSuffix, registered_meet_bind, Emission.registered_bind_of_ok hfirst,
      ihKey hfirst, ihValue hsecond, registrations, parts]
  | option inner ih =>
    simp only [decoderSuffix, result_meet_bind] at h
    simp [decoderSuffix, registered_meet_bind, ih h, registrations, parts]
  | enum enumName values => simp [decoderSuffix, registered_meet, registrations, parts]
  | ref cls => simp [decoderSuffix, registered_meet, registrations, parts]
  | record cls => simp [decoderSuffix, registered_meet, registrations, parts]

theorem registered_decoderName {ty : Ty} {name : String} (h : ty.decoderName.result = .ok name) :
    ty.decoderName.registered = ty.registrations := by
  rcases Emission.result_bind_eq_ok.mp h with ⟨suffix, hsuffix, _⟩
  simp [decoderName, registered_decoderSuffix hsuffix]

theorem javaType_registers (ty : Ty) : ty.javaType.Registers ty.registrations := by
  intro name h r
  rw [registered_javaType h]

theorem defaultValue_registers (overrides : Overrides) (ty : Ty) :
    (ty.defaultValue overrides).Registers ty.registrations := by
  intro literal h r
  rw [registered_defaultValue h]

/-! ## Faults -/

/-- A type that can be told apart, and all of whose unknown scalar kinds are faults of the kind `P`. -/
structure Apt (P : Fault → Prop) (ty : Ty) : Prop where
  plain : ty.isPlain = true
  scalars : ∀ kind, primitive kind ∈ ty.parts → Scalar.ofName? kind = none →
    P (.unknownScalar kind)

namespace Apt

variable {P : Fault → Prop} {s t : Ty}

theorem item (h : (set t).Apt P) : t.Apt P :=
  ⟨h.plain, fun kind hkind => h.scalars kind (List.mem_cons_of_mem _ hkind)⟩

theorem inner (h : (option t).Apt P) : t.Apt P :=
  ⟨h.plain, fun kind hkind => h.scalars kind (List.mem_cons_of_mem _ hkind)⟩

theorem key (h : (map s t).Apt P) : s.Apt P := by
  have both : s.isPlain = true ∧ t.isPlain = true := Bool.and_eq_true_iff.mp h.plain
  refine ⟨both.1, fun kind hkind => h.scalars kind ?_⟩
  exact List.mem_cons_of_mem _ (List.mem_append_left _ hkind)

theorem value (h : (map s t).Apt P) : t.Apt P := by
  have both : s.isPlain = true ∧ t.isPlain = true := Bool.and_eq_true_iff.mp h.plain
  refine ⟨both.2, fun kind hkind => h.scalars kind ?_⟩
  exact List.mem_cons_of_mem _ (List.mem_append_right _ hkind)

end Apt

section Sound

open Emission

variable {P : Fault → Prop}

theorem meet_sound {ty : Ty} (plain : ty.isPlain = true) : ty.meet.Sound P := by
  constructor
  · rw [result_meet]
    exact Except.FailsOnly.ok ()
  · intro what hwhat
    rw [registered_meet] at hwhat
    cases what with
    | type other =>
      rw [type_mem_entries.mp hwhat]
      exact plain
    | enum name values => rfl
    | record cls layout => exact absurd hwhat record_not_mem_entries

theorem ofScalar_sound {kind : String} (h : (primitive kind).Apt P) (f : Scalar → String) :
    (ofScalar f kind).Sound P := by
  unfold ofScalar
  cases hkind : Scalar.ofName? kind with
  | some s => exact Sound.pure _
  | none => exact Sound.fail (h.scalars kind (self_mem_parts _) hkind)

theorem javaType_sound {ty : Ty} (h : ty.Apt P) : ty.javaType.Sound P := by
  -- The parts of a type are apt with it, so the induction goes through it from the outside in.
  induction ty with
  | primitive kind =>
    unfold javaType
    exact (meet_sound h.plain).bind fun _ _ => ofScalar_sound h _
  | set item ih =>
    unfold javaType
    exact (meet_sound h.plain).bind fun _ _ => (ih h.item).bind fun _ _ => Sound.pure _
  | map key value ihKey ihValue =>
    unfold javaType
    refine (meet_sound h.plain).bind fun _ _ => (ihKey h.key).bind fun _ _ => ?_
    exact (ihValue h.value).bind fun _ _ => Sound.pure _
  | option inner ih =>
    unfold javaType
    exact (meet_sound h.plain).bind fun _ _ => ih h.inner
  | enum name values =>
    unfold javaType
    exact (meet_sound h.plain).bind fun _ _ => Sound.pure _
  | ref cls =>
    unfold javaType
    exact (meet_sound h.plain).bind fun _ _ => Sound.pure _
  | record cls =>
    unfold javaType
    exact (meet_sound h.plain).bind fun _ _ => Sound.pure _

theorem decoderSuffix_sound {ty : Ty} (h : ty.Apt P) : ty.decoderSuffix.Sound P := by
  induction ty with
  | primitive kind =>
    unfold decoderSuffix
    exact (meet_sound h.plain).bind fun _ _ => ofScalar_sound h _
  | set item ih =>
    unfold decoderSuffix
    exact (meet_sound h.plain).bind fun _ _ => (ih h.item).bind fun _ _ => Sound.pure _
  | map key value ihKey ihValue =>
    unfold decoderSuffix
    refine (meet_sound h.plain).bind fun _ _ => (ihKey h.key).bind fun _ _ => ?_
    exact (ihValue h.value).bind fun _ _ => Sound.pure _
  | option inner ih =>
    unfold decoderSuffix
    exact (meet_sound h.plain).bind fun _ _ => ih h.inner
  | enum name values =>
    unfold decoderSuffix
    exact (meet_sound h.plain).bind fun _ _ => Sound.pure _
  | ref cls =>
    unfold decoderSuffix
    exact (meet_sound h.plain).bind fun _ _ => Sound.pure _
  | record cls =>
    unfold decoderSuffix
    exact (meet_sound h.plain).bind fun _ _ => Sound.pure _

theorem decoderName_sound {ty : Ty} (h : ty.Apt P) : ty.decoderName.Sound P := by
  unfold decoderName
  exact (decoderSuffix_sound h).bind fun _ _ => Sound.pure _

/-- Only records have no default. -/
theorem defaultValue_sound {ty : Ty} (h : ty.Apt P)
    (bare : ∀ cls, ty.eraseOption = record cls → P (.recordWithoutDefault cls))
    (overrides : Overrides) : (ty.defaultValue overrides).Sound P := by
  induction ty with
  | primitive kind =>
    unfold defaultValue
    exact (meet_sound h.plain).bind fun _ _ => ofScalar_sound h _
  | set item ih =>
    unfold defaultValue
    refine (meet_sound h.plain).bind fun _ _ => ?_
    exact (javaType_sound h.item).bind fun _ _ => Sound.pure _
  | map key value ihKey ihValue =>
    unfold defaultValue
    refine (meet_sound h.plain).bind fun _ _ => (javaType_sound h.key).bind fun _ _ => ?_
    exact (javaType_sound h.value).bind fun _ _ => Sound.pure _
  | option inner ih =>
    unfold defaultValue
    exact (meet_sound h.plain).bind fun _ _ => ih h.inner bare
  | enum name values =>
    unfold defaultValue
    exact (meet_sound h.plain).bind fun _ _ => Sound.pure _
  | ref cls =>
    unfold defaultValue
    exact (meet_sound h.plain).bind fun _ _ => Sound.pure _
  | record cls =>
    -- The type is met before its default turns out to be missing.
    unfold defaultValue
    exact (meet_sound h.plain).bind fun _ _ => Sound.fail (bare cls rfl)

end Sound

/-! ## Resolutions -/

/-- One of the ways to resolve a type: the type itself is met first, and all that a registry cannot
look up on the way is in a type that cannot be told apart. -/
structure IsResolution (ty : Ty) (m : Emission String) : Prop where
  first : ∃ rest, m.met = .registration (.type ty) :: rest
  sound : ∀ {P : Fault → Prop}, ty.Apt P → (∀ cls, P (.recordWithoutDefault cls)) → m.Sound P

theorem exists_met_meet (ty : Ty) : ∃ rest, ty.meet.met = .registration (.type ty) :: rest := by
  cases ty with
  | enum name values => exact ⟨[.registration (.enum name values)], rfl⟩
  | _ => exact ⟨[], rfl⟩

theorem exists_met_meet_bind {α : Type} (ty : Ty) (f : Unit → Emission α) :
    ∃ rest, (ty.meet >>= f).met = .registration (.type ty) :: rest := by
  obtain ⟨rest, hrest⟩ := ty.exists_met_meet
  refine ⟨rest ++ (f ()).met, ?_⟩
  rw [Emission.met_bind_of_ok ty.result_meet, hrest, List.cons_append]

theorem isResolution_javaType (ty : Ty) : ty.IsResolution ty.javaType := by
  refine ⟨?_, fun apt _ => javaType_sound apt⟩
  unfold javaType
  exact ty.exists_met_meet_bind _

theorem isResolution_decoderName (ty : Ty) : ty.IsResolution ty.decoderName := by
  refine ⟨?_, fun apt _ => decoderName_sound apt⟩
  unfold decoderName decoderSuffix
  rw [bind_assoc]
  exact ty.exists_met_meet_bind _

theorem isResolution_defaultValue (overrides : Overrides) (ty : Ty) :
    ty.IsResolution (ty.defaultValue overrides) := by
  refine ⟨?_, fun apt bare => defaultValue_sound apt (fun cls _ => bare cls) overrides⟩
  unfold defaultValue
  exact ty.exists_met_meet_bind _

end Ty

/-- What is registered for a list of types. -/
def registrationsOfTypes (types : List Ty) : List Registration :=
  types.flatMap Ty.registrations

theorem javaTypeOrVoid_registers (ty : Option Ty) :
    (javaTypeOrVoid ty).Registers (registrationsOfTypes ty.toList) := by
  cases ty with
  | none => exact Emission.Registers.pure "void"
  | some ty => simpa [registrationsOfTypes, javaTypeOrVoid] using ty.javaType_registers

end ClientBindings
