import ClientBindings.Proofs.Independence
import ClientBindings.Proofs.Interchange

/-!
# Erasure — options and secrets leave no trace in what a type becomes

A type without its options, and with its secrets as strings, is resolved to the same name, the same
decoder and the same default, and its decoder has the same body; where one of the two types cannot be
resolved, neither can the other, and for the same reason.

* `Ty.erased`, `bare_of_mem_parts_erased` — a type without options, at any depth, and without secrets;
* `result_javaType_erased`, `result_decoderName_erased`, `result_defaultValue_erased`,
  `Shared.text_ofType_erased` — what generation makes of it;
* `Ty.ResolvesAlike`, `Ty.Erasable`, `erasable` — with and without a registry.

A registry that is frozen stands aside: what it refuses to note down is the type as it is given.
-/

namespace ClientBindings

/-! ## Erased types -/

namespace Scalar

/-- The kind that stands for a kind of scalar: a secret is a string. -/
def erasedKind (kind : String) : String :=
  if kind = secretString.name then string.name else kind

theorem erasedKind_ne (kind : String) : erasedKind kind ≠ secretString.name := by
  unfold erasedKind
  split
  · decide
  · next other => exact other

end Scalar

namespace Ty

/-- The type without its options, at any depth, and with every secret a string. -/
def erased : Ty → Ty
  | option inner => inner.erased
  | primitive kind => primitive (Scalar.erasedKind kind)
  | set item => set item.erased
  | map key value => map key.erased value.erased
  | enum name values => enum name values
  | ref cls => ref cls
  | record cls => record cls

theorem isPlain_erased (ty : Ty) : ty.erased.isPlain = ty.isPlain := by
  induction ty with
  | option inner ih => exact ih
  | set item ih => exact ih
  | map key value ihKey ihValue => simp only [erased, isPlain, ihKey, ihValue]
  | primitive kind => rfl
  | enum name values => rfl
  | ref cls => rfl
  | record cls => rfl

/-- Neither an option nor a secret is left anywhere. -/
theorem bare_of_mem_parts_erased {ty part : Ty} (h : part ∈ ty.erased.parts) :
    part ≠ scalar .secretString ∧ ∀ inner, part ≠ option inner := by
  induction ty with
  | option inner ih => exact ih h
  | primitive kind =>
    rw [erased, parts, List.mem_singleton] at h
    subst h
    refine ⟨fun secret => Scalar.erasedKind_ne kind ?_, by simp⟩
    exact Ty.primitive.inj secret
  | set item ih =>
    rw [erased, parts, List.mem_cons] at h
    rcases h with rfl | h
    · simp [scalar]
    · exact ih h
  | map key value ihKey ihValue =>
    rw [erased, parts, List.mem_cons, List.mem_append] at h
    rcases h with rfl | h | h
    · simp [scalar]
    · exact ihKey h
    · exact ihValue h
  | enum name values =>
    rw [erased, parts, List.mem_singleton] at h
    simp [h, scalar]
  | ref cls =>
    rw [erased, parts, List.mem_singleton] at h
    simp [h, scalar]
  | record cls =>
    rw [erased, parts, List.mem_singleton] at h
    simp [h, scalar]

/-! ## Resolving -/

/-- A table that has one entry for secrets and for strings does not tell them apart. -/
theorem ofScalar_erasedKind {f : Scalar → String} (alike : f .secretString = f .string)
    (kind : String) : ofScalar f (Scalar.erasedKind kind) = ofScalar f kind := by
  unfold Scalar.erasedKind
  split
  · next secret =>
    subst secret
    simp only [ofScalar, Scalar.ofName?_name, alike]
  · rfl

theorem result_javaType_erased (ty : Ty) : ty.erased.javaType.result = ty.javaType.result := by
  induction ty with
  | option inner ih =>
    rw [javaType, result_meet_bind]
    exact ih
  | primitive kind =>
    rw [erased, javaType, javaType, result_meet_bind, result_meet_bind]
    exact congrArg Emission.result (ofScalar_erasedKind rfl kind)
  | set item ih =>
    rw [erased, javaType, javaType, result_meet_bind, result_meet_bind, Emission.result_bind,
      Emission.result_bind, ih]
  | map key value ihKey ihValue =>
    rw [erased, javaType, javaType, result_meet_bind, result_meet_bind]
    simp only [Emission.result_bind, ihKey, ihValue]
  | enum name values => rfl
  | ref cls => rfl
  | record cls => rfl

theorem result_decoderSuffix_erased (ty : Ty) :
    ty.erased.decoderSuffix.result = ty.decoderSuffix.result := by
  induction ty with
  | option inner ih =>
    rw [decoderSuffix, result_meet_bind]
    exact ih
  | primitive kind =>
    rw [erased, decoderSuffix, decoderSuffix, result_meet_bind, result_meet_bind]
    exact congrArg Emission.result (ofScalar_erasedKind rfl kind)
  | set item ih =>
    rw [erased, decoderSuffix, decoderSuffix, result_meet_bind, result_meet_bind,
      Emission.result_bind, Emission.result_bind, ih]
  | map key value ihKey ihValue =>
    rw [erased, decoderSuffix, decoderSuffix, result_meet_bind, result_meet_bind]
    simp only [Emission.result_bind, ihKey, ihValue]
  | enum name values => rfl
  | ref cls => rfl
  | record cls => rfl

theorem result_decoderName_erased (ty : Ty) :
    ty.erased.decoderName.result = ty.decoderName.result := by
  unfold decoderName
  rw [Emission.result_bind, Emission.result_bind, result_decoderSuffix_erased]

/-- A default goes through options itself, and leaves the parts of a type to their names. -/
theorem result_defaultValue_erased (overrides : Overrides) (ty : Ty) :
    (ty.erased.defaultValue overrides).result = (ty.defaultValue overrides).result := by
  induction ty with
  | option inner ih =>
    rw [defaultValue, result_meet_bind]
    exact ih
  | primitive kind =>
    rw [erased, defaultValue, defaultValue, result_meet_bind, result_meet_bind]
    exact congrArg Emission.result (ofScalar_erasedKind rfl kind)
  | set item _ =>
    rw [erased, defaultValue, defaultValue, result_meet_bind, result_meet_bind,
      Emission.result_bind, Emission.result_bind, result_javaType_erased]
  | map key value _ _ =>
    rw [erased, defaultValue, defaultValue, result_meet_bind, result_meet_bind]
    simp only [Emission.result_bind, result_javaType_erased]
  | enum name values => rfl
  | ref cls => rfl
  -- There is no default for a record, under options or not.
  | record cls => rfl

end Ty

namespace Shared

/-- The decoder of a type that is erased has the body of the decoder of the type. -/
theorem text_ofType_erased (snapshot : Snapshot) (ty : Ty) :
    (Decoder.ofType snapshot ty.erased).map Decoder.text =
      (Decoder.ofType snapshot ty).map Decoder.text := by
  have typeName_erased : ∀ ty : Ty, typeName ty.erased = typeName ty := Ty.result_javaType_erased
  have decoderName_erased : ∀ ty : Ty, decoderName ty.erased = decoderName ty :=
    Ty.result_decoderName_erased
  induction ty with
  | option inner ih => exact ih
  | primitive kind =>
    rw [Ty.erased, Scalar.erasedKind]
    split
    · next secret =>
      subst secret
      rfl
    · rfl
  | set item _ => rw [Ty.erased, Decoder.ofType, Decoder.ofType, typeName_erased, decoderName_erased]
  | map key value _ _ =>
    simp only [Ty.erased, Decoder.ofType, typeName_erased, decoderName_erased]
  | enum name values => rfl
  | ref cls => rfl
  | record cls => rfl

end Shared

/-! ## With and without a registry -/

namespace Ty

namespace IsResolution

variable {s t : Ty} {m n : Emission String}

/-- Types that a registry can look up alike are resolved alike in every registry, if they are so
without one. -/
theorem outcome_congr (hm : s.IsResolution m) (hn : t.IsResolution n)
    (plain : s.isPlain = t.isPlain) (same : m.result = n.result) {context : Option Registry}
    (opened : IsOpen context) : m.outcome context = n.outcome context := by
  cases context with
  | none => exact same
  | some r =>
    calc (r.settle m).result = m.settled := (Emission.settle_of_open (opened r rfl) m).1
      _ = n.settled := by rw [hm.settled_eq, hn.settled_eq, plain, same]
      _ = (r.settle n).result := (Emission.settle_of_open (opened r rfl) n).1.symm

/-- A frozen registry refuses the type that is resolved, before anything comes of it. -/
theorem outcome_of_frozen (h : s.IsResolution m) {r : Registry} (frozen : r.frozen = true) :
    m.outcome (some r) = .error (.registryFrozen (.type s)) := by
  obtain ⟨rest, first⟩ := h.first
  have refused : r.register (.type s) = .error (.registryFrozen (.type s)) := by
    simp [Registry.register, frozen]
  simp [Emission.outcome, Registry.settle, first, Registry.absorb, refused]

end IsResolution

/-- A way to resolve types does not tell `s` from `t`. -/
structure ResolvesAlike (resolve : Ty → Emission String) (s t : Ty) : Prop where
  /-- Both come to the same text or the same fault, without a registry and in any that is not
  frozen. -/
  opened : ∀ context, IsOpen context → (resolve s).outcome context = (resolve t).outcome context
  /-- A frozen registry refuses both, each under its own name. -/
  refused : ∀ r : Registry, r.frozen = true →
    (resolve s).outcome (some r) = .error (.registryFrozen (.type s)) ∧
      (resolve t).outcome (some r) = .error (.registryFrozen (.type t))

theorem resolvesAlike_erased {resolve : Ty → Emission String} {ty : Ty}
    (resolution : ∀ t : Ty, t.IsResolution (resolve t))
    (same : (resolve ty.erased).result = (resolve ty).result) :
    ResolvesAlike resolve ty ty.erased := by
  constructor
  · intro context opened
    exact (resolution ty).outcome_congr (resolution ty.erased) ty.isPlain_erased.symm same.symm opened
  · intro r frozen
    exact ⟨(resolution ty).outcome_of_frozen frozen, (resolution ty.erased).outcome_of_frozen frozen⟩

/-- Nothing that is generated tells a type from its erasure. -/
structure Erasable (ty : Ty) : Prop where
  /-- The erasure has neither options nor secrets. -/
  bare : ∀ part ∈ ty.erased.parts, part ≠ scalar .secretString ∧ ∀ inner, part ≠ option inner
  name : ResolvesAlike javaType ty ty.erased
  decoder : ResolvesAlike decoderName ty ty.erased
  default : ∀ overrides, ResolvesAlike (defaultValue overrides) ty ty.erased
  body : ∀ snapshot, (Shared.Decoder.ofType snapshot ty).map Shared.Decoder.text =
    (Shared.Decoder.ofType snapshot ty.erased).map Shared.Decoder.text

theorem erasable (ty : Ty) : ty.Erasable := by
  constructor
  · intro part hpart
    exact bare_of_mem_parts_erased hpart
  · exact resolvesAlike_erased isResolution_javaType ty.result_javaType_erased
  · exact resolvesAlike_erased isResolution_decoderName ty.result_decoderName_erased
  · intro overrides
    exact resolvesAlike_erased (isResolution_defaultValue overrides)
      (ty.result_defaultValue_erased overrides)
  · intro snapshot
    exact (Shared.text_ofType_erased snapshot ty).symm

/-- A frozen registry names the type with its options. -/
theorem not_alike_of_frozen :
    (option (.scalar .int)).erased = .scalar .int ∧
      (option (.scalar .int)).javaType.outcome (some Registry.empty.freeze.1) =
        .error (.registryFrozen (.type (option (.scalar .int)))) ∧
      (Ty.scalar .int).javaType.outcome (some Registry.empty.freeze.1) =
        .error (.registryFrozen (.type (.scalar .int))) ∧
      ¬∀ context, (option (.scalar .int)).javaType.outcome context =
        (option (.scalar .int)).erased.javaType.outcome context := by
  have erased : (option (.scalar .int)).erased = .scalar .int := by decide
  have whole := (isResolution_javaType (option (.scalar .int))).outcome_of_frozen
    (r := Registry.empty.freeze.1) rfl
  have bare := (isResolution_javaType (.scalar .int)).outcome_of_frozen
    (r := Registry.empty.freeze.1) rfl
  refine ⟨erased, whole, bare, ?_⟩
  intro alike
  have same := alike (some Registry.empty.freeze.1)
  rw [erased, whole, bare] at same
  cases same

end Ty
end ClientBindings
