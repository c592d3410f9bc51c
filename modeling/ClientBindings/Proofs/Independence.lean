import ClientBindings.Proofs.Collection

/-!
# Independence — generated text does not depend on the registry

Resolving types and generating sources fill a registry on the way.  What comes of it is the same in
every registry that is not frozen, whatever it holds.  Without a registry it is the same again, but
for types that no registry can look up: a registry refuses them.

* `Emission.outcome` — what an emission comes to in a registry, or without one;
* `Registry.Takes`, `Emission.outcome_eq_ok_iff` — when it completes there;
* `Ty.resolutions` — the ways to resolve a type;
* `Ty.IsResolution.settled_eq` — what they come to in a registry;
* `Registry.afterSources` — a registry into which the sources of classes were entered;
* `independent` — no text depends on a registry.
-/

namespace ClientBindings

/-! ## Outcomes -/

namespace Emission

variable {α : Type}

/-- What an emission comes to where there is a registry to enter it into, and where there is none. -/
def outcome (m : Emission α) : Option Registry → Except Fault α
  | some r => (r.settle m).result
  | none => m.result

end Emission

/-- A registry may take a registration, and can look it up again. -/
def Registry.Takes (r : Registry) (what : Registration) : Prop :=
  r.frozen = false ∧ what.isPlain = true

theorem Registry.absorb_eq_ok_iff {r : Registry} {met : List Encounter} :
    (r.absorb met).result = .ok () ↔ ∀ what ∈ registrationsOf met, r.Takes what := by
  unfold Takes
  cases opened : r.frozen with
  | false =>
    rw [(absorb_of_open opened met).1]
    by_cases plain : ∀ what ∈ registrationsOf met, what.isPlain = true
    · simpa [List.all_eq_true.mpr plain] using plain
    · have unplain : ¬(registrationsOf met).all Registration.isPlain = true :=
        fun all => plain (List.all_eq_true.mp all)
      simpa [unplain] using plain
  | true =>
    induction met with
    | nil => simp [absorb, registrationsOf]
    | cons e rest ih =>
      cases e with
      -- A note passes even a frozen registry.
      | note note => exact ih
      | registration what =>
        have refused : r.register what = .error (.registryFrozen what) := by
          simp [register, opened]
        have first : what ∈ registrationsOf (.registration what :: rest) := List.mem_cons_self
        simp only [absorb, refused, reduceCtorEq, false_iff]
        intro taken
        cases (taken what first).1

/-- An emission completes in a registry exactly if it completes by itself and the registry takes all
that it registers. -/
theorem Emission.outcome_eq_ok_iff {α : Type} {m : Emission α} {r : Registry} {a : α} :
    m.outcome (some r) = .ok a ↔
      m.result = .ok a ∧ ∀ what ∈ m.registered, r.Takes what := by
  have settled : m.outcome (some r) = ((r.absorb m.met).result >>= fun _ => m.result) :=
    (Registry.settle_eq r m).1
  rw [settled, Except.bind_eq_ok, registered, ← Registry.absorb_eq_ok_iff]
  constructor
  · rintro ⟨u, taken, completed⟩
    exact ⟨completed, taken⟩
  · rintro ⟨completed, taken⟩
    exact ⟨(), taken, completed⟩

/-- The same, for what is known to be registered where an emission completes. -/
theorem Emission.Registers.outcome_eq_ok_iff {α : Type} {m : Emission α} {rs : List Registration}
    (h : m.Registers rs) {context : Option Registry} {a : α} :
    m.outcome context = .ok a ↔ m.result = .ok a ∧ ∀ r ∈ context, ∀ what ∈ rs, r.Takes what := by
  cases context with
  | none => exact ⟨fun completed => ⟨completed, fun _ none => nomatch none⟩, fun done => done.1⟩
  | some r =>
    rw [Emission.outcome_eq_ok_iff]
    refine and_congr_right fun completed => ?_
    have members := h a completed
    constructor
    · intro taken other hother what hwhat
      rw [← Option.some.inj hother]
      exact taken what ((members what).mpr hwhat)
    · intro taken what hwhat
      exact taken r rfl what ((members what).mp hwhat)

/-- A registry that is not frozen, or none. -/
def IsOpen (context : Option Registry) : Prop :=
  ∀ r ∈ context, r.frozen = false

theorem isOpen_none : IsOpen none := by
  intro r hr
  cases hr

theorem isOpen_some {r : Registry} (opened : r.frozen = false) : IsOpen (some r) := by
  intro other same
  rwa [← Option.some.inj same]

/-! ## Types -/

namespace Ty

/-- The ways to resolve a type: its name, its decoder and its default. -/
def resolutions (overrides : Overrides) (ty : Ty) : List (Emission String) :=
  [ty.javaType, ty.decoderName, ty.defaultValue overrides]

theorem isResolution_of_mem {overrides : Overrides} {ty : Ty} {m : Emission String}
    (h : m ∈ ty.resolutions overrides) : ty.IsResolution m := by
  simp only [resolutions, List.mem_cons, List.not_mem_nil, or_false] at h
  rcases h with rfl | rfl | rfl
  · exact ty.isResolution_javaType
  · exact ty.isResolution_decoderName
  · exact ty.isResolution_defaultValue overrides

namespace IsResolution

variable {ty : Ty} {m : Emission String}

/-- A registry refuses a type that it cannot look up, and has no other part in a resolution. -/
theorem settled_eq (h : ty.IsResolution m) :
    m.settled = if ty.isPlain then m.result else .error .notAName := by
  by_cases plain : ty.isPlain = true
  · have apt : ty.Apt fun _ => True := ⟨plain, fun _ _ _ => trivial⟩
    have sound : m.Sound fun _ => True := h.sound apt fun _ => trivial
    rw [if_pos plain, Emission.settled_of_plain sound.plain]
  · obtain ⟨rest, first⟩ := h.first
    -- The type itself is what is refused, as it is met first.
    have refused : ¬m.registered.all Registration.isPlain = true := by
      intro all
      refine plain (List.all_eq_true.mp all (.type ty) ?_)
      rw [Emission.registered, first]
      exact List.mem_cons_self
    rw [if_neg plain, Emission.settled_eq, if_neg refused]

theorem outcome_of_plain (h : ty.IsResolution m) (plain : ty.isPlain = true)
    {context : Option Registry} (opened : IsOpen context) : m.outcome context = m.result := by
  cases context with
  | none => rfl
  | some r =>
    calc (r.settle m).result = m.settled := (Emission.settle_of_open (opened r rfl) m).1
      _ = m.result := by rw [h.settled_eq, if_pos plain]

theorem outcome_of_not_plain (h : ty.IsResolution m) (unplain : ty.isPlain = false)
    {r : Registry} (opened : r.frozen = false) : m.outcome (some r) = .error .notAName := by
  calc (r.settle m).result = m.settled := (Emission.settle_of_open opened m).1
    _ = .error .notAName := by simp [h.settled_eq, unplain]

end IsResolution
end Ty

/-! ## Registries on the way -/

namespace Registry

/-- The registry after the sources of some classes, whether they are completed or not. -/
def afterSources (s : Settings) (r : Registry) (classes : List ApiClass) : Registry :=
  classes.foldl (fun r cls => (r.settle (Source.ClassSource.ofClass s cls)).registry) r

variable {s : Settings} {r : Registry} {classes : List ApiClass}

/-- What every emission keeps, the sources of all classes keep. -/
theorem holds_afterSources (holds : Registry → Prop)
    (kept : ∀ (r : Registry) (m : Emission Source.ClassSource),
      holds r → holds (r.settle m).registry)
    (h : holds r) (classes : List ApiClass) : holds (r.afterSources s classes) := by
  induction classes generalizing r with
  | nil => exact h
  | cons cls rest ih => exact ih (kept r _ h)

theorem open_afterSources (opened : r.frozen = false) (classes : List ApiClass) :
    (r.afterSources s classes).frozen = false :=
  holds_afterSources (fun r => r.frozen = false)
    (fun _ m opened => (Emission.settle_of_open opened m).2) opened classes

/-- A registry all of whose types can be told apart. -/
def Plain (r : Registry) : Prop :=
  ∀ ty ∈ r.types, ty.isPlain = true

theorem plain_register {r' : Registry} {what : Registration} (h : r.Plain)
    (registered : r.register what = .ok r') : r'.Plain := by
  intro ty hty
  have entered : r' = r.enter what := register_eq_ok registered
  rw [entered] at hty
  rcases mem_types_enter hty with hty | rfl
  · exact h ty hty
  · unfold register at registered
    split at registered
    · cases registered
    · split at registered
      · assumption
      · cases registered

theorem plain_absorb (h : r.Plain) (met : List Encounter) : (r.absorb met).registry.Plain := by
  induction met generalizing r with
  | nil => exact h
  | cons e rest ih =>
    cases e with
    | note note => exact ih h
    | registration what =>
      cases registered : r.register what with
      | error fault => simpa only [absorb, registered] using h
      | ok r' => simpa only [absorb, registered] using ih (plain_register h registered)

theorem plain_settle {α : Type} (h : r.Plain) (m : Emission α) : (r.settle m).registry.Plain := by
  rw [(settle_eq r m).2]
  exact plain_absorb h m.met

end Registry

namespace Run

variable {c : Config} {s : Settings} {p q : Progress}

theorem emit_leaves {α : Type} {m : Emission α} {a : α} (h : (emit m).Completes p a q) :
    q.registry = (p.registry.settle m).registry :=
  (congrArg (fun outcome => outcome.2.registry) h).symm

theorem classFile_leaves {cls : ApiClass} {u : Unit} (h : (classFile c s cls).Completes p u q) :
    q.registry = (p.registry.settle (Source.ClassSource.ofClass s cls)).registry := by
  rcases completes_bind.mp h with ⟨source, p₁, hemit, h⟩
  rcases completes_bind.mp h with ⟨path, p₂, hwrite, hreport⟩
  rw [report_completes hreport, writeFile_completes hwrite, emit_leaves hemit]

theorem forM_leaves {classes : List ApiClass} {u : PUnit}
    (h : (classes.forM (classFile c s)).Completes p u q) :
    q.registry = p.registry.afterSources s classes := by
  induction classes generalizing p with
  | nil =>
    rw [← (completes_pure.mp h).2]
    rfl
  | cons cls rest ih =>
    rcases completes_bind.mp h with ⟨v, p₁, hfile, hrest⟩
    rw [ih hrest, classFile_leaves hfile]
    rfl

/-- The registry of a run behind its classes, told without the disk. -/
theorem classes_leave {schema : Schema} {u : Unit} (h : (classes c schema).Completes p u q) :
    q.registry = (p.registry.settle (objectKinds schema.classes).javaType).registry.afterSources
      (c.settings schema) schema.classes := by
  rcases completes_bind.mp h with ⟨name, p₁, hkinds, h⟩
  rcases completes_bind.mp h with ⟨v, p₂, hfiles, hreport⟩
  rw [report_completes hreport, forM_leaves hfiles, emit_leaves hkinds]

/-- All that a registry holds once the sources are written can be told apart. -/
theorem plain_of_classes {schema : Schema} {disk : Disk} {u : Unit}
    (h : (classes c schema).Completes (Progress.start disk) u p) : p.registry.Plain := by
  have fresh : Registry.empty.Plain := by
    intro ty hty
    cases hty
  have kinds := Registry.plain_settle fresh (objectKinds schema.classes).javaType
  rw [classes_leave h]
  exact Registry.holds_afterSources Registry.Plain (fun _ m h => Registry.plain_settle h m) kinds _

end Run

/-! ## Independence -/

/-- No text depends on a registry. -/
structure Independent (overrides : Overrides) (s : Settings) : Prop where
  /-- A type that can be told apart is resolved alike in all registries, and without one. -/
  plain : ∀ ty : Ty, ty.isPlain = true → ∀ m ∈ ty.resolutions overrides, ∀ first second,
    IsOpen first → IsOpen second → m.outcome first = m.outcome second
  /-- Any other is refused by all registries alike. -/
  refused : ∀ ty : Ty, ty.isPlain = false → ∀ m ∈ ty.resolutions overrides, ∀ r : Registry,
    r.frozen = false → m.outcome (some r) = .error .notAName
  /-- What has been entered by the sources of all classes is resolved without a registry to the same
  texts. -/
  phases : ∀ (c : Config) (schema : Schema) (disk : Disk) (p : Progress),
    (Run.classes c schema).Completes (Progress.start disk) () p →
      ∀ ty ∈ p.registry.types, ∀ m ∈ ty.resolutions overrides, ∀ context,
        IsOpen context → m.outcome context = m.outcome none
  /-- The source of a class is the same in all registries. -/
  source : ∀ (cls : ApiClass) (first second : Registry),
    first.frozen = false → second.frozen = false →
      (Source.ClassSource.ofClass s cls).outcome (some first) =
        (Source.ClassSource.ofClass s cls).outcome (some second)
  /-- In particular it does not depend on the classes in front. -/
  order : ∀ (classes : List ApiClass) (cls : ApiClass),
    (Source.ClassSource.ofClass s cls).outcome (some (Registry.empty.afterSources s classes)) =
      (Source.ClassSource.ofClass s cls).outcome (some .empty)

theorem independent (overrides : Overrides) (s : Settings) : Independent overrides s := by
  have plain : ∀ ty : Ty, ty.isPlain = true → ∀ m ∈ ty.resolutions overrides, ∀ first second,
      IsOpen first → IsOpen second → m.outcome first = m.outcome second := by
    intro ty plain m hm first second hfirst hsecond
    have resolution : ty.IsResolution m := Ty.isResolution_of_mem hm
    calc m.outcome first = m.result := resolution.outcome_of_plain plain hfirst
      _ = m.outcome second := (resolution.outcome_of_plain plain hsecond).symm
  have source : ∀ (cls : ApiClass) (first second : Registry),
      first.frozen = false → second.frozen = false →
        (Source.ClassSource.ofClass s cls).outcome (some first) =
          (Source.ClassSource.ofClass s cls).outcome (some second) := by
    intro cls first second hfirst hsecond
    calc (first.settle (Source.ClassSource.ofClass s cls)).result
        = (Source.ClassSource.ofClass s cls).settled := (Emission.settle_of_open hfirst _).1
      _ = (second.settle (Source.ClassSource.ofClass s cls)).result :=
        (Emission.settle_of_open hsecond _).1.symm
  refine ⟨plain, ?_, ?_, source, ?_⟩
  · intro ty unplain m hm r opened
    exact (Ty.isResolution_of_mem hm).outcome_of_not_plain unplain opened
  · intro c schema disk p completed ty hty m hm context opened
    -- Whatever a registry holds it was able to look up.
    have told : ty.isPlain = true := Run.plain_of_classes completed ty hty
    exact plain ty told m hm context none opened isOpen_none
  · intro classes cls
    exact source cls _ .empty (Registry.open_afterSources rfl classes) rfl

/-! ## A type that no registry can look up -/

namespace Sample

/-- An enumeration one of whose values travels as a list. -/
def listed : Ty :=
  .enum "e" [⟨.list [.text "a"], .text ""⟩]

end Sample

/-- Such a type has a name without a registry, and none in an empty one. -/
theorem not_independent_of_listed :
    Sample.listed.javaType.outcome none = .ok "Types.E" ∧
      Sample.listed.javaType.outcome (some .empty) = .error .notAName ∧
      ¬∀ first second, IsOpen first → IsOpen second →
        Sample.listed.javaType.outcome first = Sample.listed.javaType.outcome second := by
  have named : Sample.listed.javaType.outcome none = .ok "Types.E" := by decide
  have refused : Sample.listed.javaType.outcome (some .empty) = .error .notAName := rfl
  refine ⟨named, refused, ?_⟩
  intro alike
  have same := alike none (some .empty) isOpen_none (isOpen_some rfl)
  rw [named, refused] at same
  cases same

end ClientBindings
