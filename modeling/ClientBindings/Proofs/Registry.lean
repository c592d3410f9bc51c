import ClientBindings.Proofs.Emission
import ClientBindings.Proofs.Table
import ClientBindings.Registry

/-!
# Registry — what a registry holds after an emission

An emission that is entered into a registry without being refused leaves the registry that its
registrations lead to, one after the other.  What that registry holds is read off each part:

* `Registry.enterAll` — a list of registrations, entered in order;
* `Registry.settle_eq_ok` — the outcome of an emission that completes;
* `Emission.settled` — what an emission comes to in any registry that is not frozen;
* `mem_types_enterAll`, `exists_same_of_enterAll`, `apart_enterAll` — the types: those that were
  registered, each once;
* `mem_enum_names_enterAll`, `get?_enums_enterAll` — the names of enumerations and their values;
* `get?_records_enterAll` — the layouts of records.
-/

namespace ClientBindings
namespace Registry

def enterAll (r : Registry) (rs : List Registration) : Registry :=
  rs.foldl enter r

@[simp] theorem enterAll_nil (r : Registry) : r.enterAll [] = r :=
  rfl

@[simp] theorem enterAll_cons (r : Registry) (what : Registration) (rs : List Registration) :
    r.enterAll (what :: rs) = (r.enter what).enterAll rs :=
  rfl

theorem enterAll_append (r : Registry) (rs later : List Registration) :
    r.enterAll (rs ++ later) = (r.enterAll rs).enterAll later :=
  List.foldl_append

/-! ## Entering an emission -/

theorem register_eq_ok {r r' : Registry} {what : Registration} (h : r.register what = .ok r') :
    r' = r.enter what := by
  unfold register at h
  split at h
  · simp at h
  · split at h
    · exact (Except.ok.inj h).symm
    · simp at h

theorem absorb_eq_ok {r : Registry} {met : List Encounter} (h : (r.absorb met).result = .ok ()) :
    (r.absorb met).registry = r.enterAll (registrationsOf met) := by
  induction met generalizing r with
  | nil => rfl
  | cons e rest ih =>
    cases e with
    -- A note is kept for the log, and leaves the registry alone.
    | note note => exact ih h
    | registration what =>
      cases hr : r.register what with
      | error fault => simp [absorb, hr] at h
      | ok r' =>
        simp only [absorb, hr] at h ⊢
        rw [ih h, register_eq_ok hr]
        rfl

/-- An emission completes in a registry only if it completes by itself, and its registrations are
entered in order. -/
theorem settle_eq_ok {α : Type} {r : Registry} {m : Emission α} {a : α}
    (h : (r.settle m).result = .ok a) :
    m.result = .ok a ∧ (r.settle m).registry = r.enterAll m.registered := by
  unfold settle at h ⊢
  have entered : (r.absorb m.met).result = .ok () →
      (r.absorb m.met).registry = r.enterAll (registrationsOf m.met) := absorb_eq_ok
  rcases hs : r.absorb m.met with ⟨r', met, result⟩
  rw [hs] at h entered
  cases result with
  | error fault => simp at h
  | ok u => exact ⟨h, entered rfl⟩

/-! ## Open registries -/

section Opened

variable {α : Type} {r : Registry}

theorem frozen_enter (r : Registry) (what : Registration) : (r.enter what).frozen = r.frozen := by
  cases what <;> rfl

theorem register_of_open (opened : r.frozen = false) (what : Registration) :
    r.register what = if what.isPlain then .ok (r.enter what) else .error .notAName := by
  simp [register, opened]

/-- All open registries take the same part in what was met, and stay open. -/
theorem absorb_of_open (opened : r.frozen = false) (met : List Encounter) :
    (r.absorb met).result =
        (if (registrationsOf met).all Registration.isPlain then .ok () else .error .notAName) ∧
      (r.absorb met).registry.frozen = false := by
  induction met generalizing r with
  | nil => exact ⟨rfl, opened⟩
  | cons e rest ih =>
    cases e with
    -- A note is kept for the log, and leaves the registry alone.
    | note note => exact ih opened
    | registration what =>
      have head : registrationsOf (.registration what :: rest) = what :: registrationsOf rest := rfl
      simp only [absorb, register_of_open opened, head, List.all_cons]
      by_cases plain : what.isPlain = true
      · simp only [plain, if_true, Bool.true_and]
        exact ih ((frozen_enter r what).trans opened)
      · simp only [plain]
        exact ⟨rfl, opened⟩

theorem settle_eq (r : Registry) (m : Emission α) :
    (r.settle m).result = ((r.absorb m.met).result >>= fun _ => m.result) ∧
      (r.settle m).registry = (r.absorb m.met).registry := by
  unfold settle
  rcases r.absorb m.met with ⟨r', met, result⟩
  cases result <;> exact ⟨rfl, rfl⟩

/-- A registry takes part in what is met up to its end, whether an emission completes or not. -/
theorem registry_settle_of_plain {m : Emission α}
    (opened : r.frozen = false) (plain : m.registered.all Registration.isPlain = true) :
    (r.settle m).registry = r.enterAll m.registered := by
  have taken : (r.absorb m.met).result = .ok () := by
    rw [(absorb_of_open opened m.met).1]
    exact if_pos plain
  rw [(settle_eq r m).2]
  exact absorb_eq_ok taken

end Opened

end Registry

namespace Emission

variable {α : Type} {m : Emission α}

/-- What an emission comes to in a registry that is not frozen: its own result, unless it meets what
a registry cannot look up. -/
def settled (m : Emission α) : Except Fault α :=
  (Registry.empty.settle m).result

theorem settle_of_open {r : Registry} (opened : r.frozen = false) (m : Emission α) :
    (r.settle m).result = m.settled ∧ (r.settle m).registry.frozen = false := by
  obtain ⟨result, registry⟩ := Registry.settle_eq r m
  obtain ⟨absorbed, stays⟩ := Registry.absorb_of_open opened m.met
  have fresh := (Registry.absorb_of_open (r := Registry.empty) rfl m.met).1
  constructor
  · rw [settled, result, (Registry.settle_eq Registry.empty m).1, absorbed, fresh]
  · rw [registry, stays]

theorem result_of_settled {a : α} (h : m.settled = .ok a) : m.result = .ok a :=
  (Registry.settle_eq_ok h).1

theorem settled_eq (m : Emission α) :
    m.settled =
      if m.registered.all Registration.isPlain then m.result else .error .notAName := by
  have absorbed := (Registry.absorb_of_open (r := Registry.empty) rfl m.met).1
  rw [settled, (Registry.settle_eq Registry.empty m).1, absorbed, registered]
  split <;> rfl

theorem settled_of_plain (plain : ∀ what ∈ m.registered, what.isPlain = true) :
    m.settled = m.result := by
  have all : m.registered.all Registration.isPlain = true := List.all_eq_true.mpr plain
  rw [settled_eq, if_pos all]

/-- In a registry that is not frozen, a sound emission has no faults but its own. -/
theorem Sound.settled_failsOnly {P : Fault → Prop} (h : m.Sound P) :
    Except.FailsOnly P m.settled := by
  rw [settled_of_plain h.plain]
  exact h.faults

end Emission

namespace Registry

/-! ## Types -/

theorem mem_types_enter {r : Registry} {what : Registration} {ty : Ty}
    (h : ty ∈ (r.enter what).types) : ty ∈ r.types ∨ what = .type ty := by
  cases what with
  | type other =>
    simp only [enter] at h
    split at h
    · exact Or.inl h
    · rcases List.mem_append.mp h with h | h
      · exact Or.inl h
      · exact Or.inr (by rw [List.mem_singleton.mp h])
  | enum name values => exact Or.inl h
  | record cls layout => exact Or.inl h

theorem types_subset_enter {r : Registry} {what : Registration} {ty : Ty} (h : ty ∈ r.types) :
    ty ∈ (r.enter what).types := by
  cases what with
  | type other =>
    simp only [enter]
    split
    · exact h
    · exact List.mem_append_left _ h
  | enum name values => exact h
  | record cls layout => exact h

/-- A registry holds only types that were registered. -/
theorem mem_types_enterAll {r : Registry} {rs : List Registration} {ty : Ty}
    (h : ty ∈ (r.enterAll rs).types) : ty ∈ r.types ∨ .type ty ∈ rs := by
  induction rs generalizing r with
  | nil => exact Or.inl h
  | cons what rest ih =>
    rcases ih h with h | h
    · rcases mem_types_enter h with h | rfl
      · exact Or.inl h
      · exact Or.inr List.mem_cons_self
    · exact Or.inr (List.mem_cons_of_mem _ h)

theorem types_subset_enterAll {r : Registry} {rs : List Registration} {ty : Ty}
    (h : ty ∈ r.types) : ty ∈ (r.enterAll rs).types := by
  induction rs generalizing r with
  | nil => exact h
  | cons what rest ih => exact ih (types_subset_enter h)

theorem exists_same_of_enter (r : Registry) (ty : Ty) :
    ∃ other ∈ (r.enter (.type ty)).types, ty.sameType other = true := by
  simp only [enter]
  split
  · next there =>
    obtain ⟨other, hother, same⟩ := List.any_eq_true.mp there
    exact ⟨other, hother, same⟩
  · exact ⟨ty, by simp, by simp [Ty.sameType]⟩

/-- Every type that was registered has a place, or one that is the same type has. -/
theorem exists_same_of_enterAll {r : Registry} {rs : List Registration} {ty : Ty}
    (h : .type ty ∈ rs) : ∃ other ∈ (r.enterAll rs).types, ty.sameType other = true := by
  induction rs generalizing r with
  | nil => simp at h
  | cons what rest ih =>
    rcases List.mem_cons.mp h with rfl | h
    · obtain ⟨other, hother, same⟩ := exists_same_of_enter r ty
      exact ⟨other, types_subset_enterAll (r := r.enter (.type ty)) hother, same⟩
    · exact ih h

/-- Whether all types of a registry can be told apart. -/
def Apart (r : Registry) : Prop :=
  r.types.Pairwise fun s t => ¬s.sameType t

theorem apart_enter {r : Registry} (h : r.Apart) (what : Registration) : (r.enter what).Apart := by
  cases what with
  | type ty =>
    by_cases there : r.hasType ty = true
    · simpa [Apart, enter, there] using h
    · have longer : (r.enter (.type ty)).types = r.types ++ [ty] := by simp [enter, there]
      rw [Apart, longer]
      refine List.pairwise_append.mpr ⟨h, List.pairwise_singleton _ _, ?_⟩
      intro s hs t ht
      rw [List.mem_singleton.mp ht]
      intro same
      -- Being the same type is symmetric, so `s` would have kept the type out.
      refine there (List.any_eq_true.mpr ⟨s, hs, ?_⟩)
      simp only [Ty.sameType, decide_eq_true_eq] at same ⊢
      exact same.symm
  | enum name values => exact h
  | record cls layout => exact h

theorem apart_enterAll {r : Registry} (h : r.Apart) (rs : List Registration) :
    (r.enterAll rs).Apart := by
  induction rs generalizing r with
  | nil => exact h
  | cons what rest ih => exact ih (apart_enter h what)

/-! ## Enumerations -/

theorem mem_enum_names_enterAll {r : Registry} {rs : List Registration} {name : String} :
    name ∈ (r.enterAll rs).enums.names ↔ name ∈ r.enums.names ∨ ∃ values, .enum name values ∈ rs := by
  induction rs generalizing r with
  | nil => simp
  | cons what rest ih =>
    rw [enterAll_cons, ih]
    cases what with
    | enum other values =>
      simp only [enter, Table.mem_names_insert, List.mem_cons, Registration.enum.injEq]
      constructor
      · rintro ((rfl | h) | ⟨values, h⟩)
        · exact Or.inr ⟨values, Or.inl ⟨rfl, rfl⟩⟩
        · exact Or.inl h
        · exact Or.inr ⟨values, Or.inr h⟩
      · rintro (h | ⟨others, ⟨rfl, rfl⟩ | h⟩)
        · exact Or.inl (Or.inr h)
        · exact Or.inl (Or.inl rfl)
        · exact Or.inr ⟨others, h⟩
    | type ty => simp [enter]
    | record cls layout => simp [enter]

/-- What every registration keeps stays as it is. -/
theorem holds_enterAll {holds : Registry → Prop} {rs : List Registration} {r : Registry}
    (kept : ∀ what ∈ rs, ∀ r, holds r → holds (r.enter what)) (h : holds r) :
    holds (r.enterAll rs) := by
  induction rs generalizing r with
  | nil => exact h
  | cons what rest ih =>
    have first : holds (r.enter what) := kept what List.mem_cons_self r h
    exact ih (fun other hother => kept other (List.mem_cons_of_mem _ hother)) first

/-- The values that an enumeration is registered with last are the ones it has. -/
theorem get?_enums_of_last {r : Registry} {before after : List Registration} {name : String}
    {values : List EnumValue} (last : ∀ others, .enum name others ∉ after) :
    (r.enterAll (before ++ .enum name values :: after)).enums.get? name = some values := by
  have entered : ((r.enterAll before).enter (.enum name values)).enums.get? name = some values := by
    simp only [enter, Table.get?_insert, if_true]
  -- Whatever is registered later writes elsewhere.
  have kept : ∀ what ∈ after, ∀ r : Registry, r.enums.get? name = some values →
      (r.enter what).enums.get? name = some values := by
    intro what hwhat r h
    cases what with
    | enum other others =>
      have apart : name ≠ other := by
        rintro rfl
        exact last others hwhat
      simpa only [enter, Table.get?_insert, if_neg apart] using h
    | type ty => exact h
    | record cls layout => exact h
  rw [enterAll_append, enterAll_cons]
  exact holds_enterAll kept entered

/-- Where an enumeration is registered with one list of values only, it has those values. -/
theorem get?_enums_enterAll {r : Registry} {rs : List Registration} {name : String}
    {values : List EnumValue} (there : .enum name values ∈ rs)
    (only : ∀ others, .enum name others ∈ rs → others = values) :
    (r.enterAll rs).enums.get? name = some values := by
  rcases exists_last (p := fun what => ∃ others, what = .enum name others) ⟨_, there, values, rfl⟩
    with ⟨before, _, after, rfl, ⟨others, rfl⟩, last⟩
  have same : others = values := only others (List.mem_append_right _ List.mem_cons_self)
  rw [same]
  exact get?_enums_of_last fun later hlater => last _ hlater ⟨later, rfl⟩

/-- A registry holds only values that were registered. -/
theorem enum_mem_of_mem_enterAll {rs : List Registration} {e : String × List EnumValue}
    (h : e ∈ (empty.enterAll rs).enums) : .enum e.1 e.2 ∈ rs := by
  have kept : ∀ what ∈ rs, ∀ r : Registry, (∀ e ∈ r.enums, .enum e.1 e.2 ∈ rs) →
      ∀ e ∈ (r.enter what).enums, .enum e.1 e.2 ∈ rs := by
    intro what hwhat r held e he
    cases what with
    | enum name values =>
      rcases Table.mem_insert he with rfl | old
      · exact hwhat
      · exact held e old
    | type ty => exact held e he
    | record cls layout => exact held e he
  exact holds_enterAll kept (by simp [empty]) e h

theorem nodup_enum_names_enterAll {r : Registry} (h : r.enums.names.Nodup)
    (rs : List Registration) : (r.enterAll rs).enums.names.Nodup := by
  induction rs generalizing r with
  | nil => exact h
  | cons what rest ih =>
    refine ih ?_
    cases what with
    | enum name values => exact Table.nodup_names_insert h name values
    | type ty => exact h
    | record cls layout => exact h

/-! ## Records -/

theorem nodup_record_names_enterAll {r : Registry} (h : r.records.names.Nodup)
    (rs : List Registration) : (r.enterAll rs).records.names.Nodup := by
  induction rs generalizing r with
  | nil => exact h
  | cons what rest ih =>
    refine ih ?_
    cases what with
    | record cls layout => exact Table.nodup_names_insert h cls.memberText layout
    | type ty => exact h
    | enum name values => exact h

/-- Registrations without a record leave the layouts as they are. -/
theorem records_enterAll_of_none {r : Registry} {rs : List Registration}
    (h : ∀ cls layout, .record cls layout ∉ rs) : (r.enterAll rs).records = r.records := by
  induction rs generalizing r with
  | nil => rfl
  | cons what rest ih =>
    have tail := ih (r := r.enter what) fun cls layout hmem =>
      h cls layout (List.mem_cons_of_mem _ hmem)
    rw [enterAll_cons, tail]
    cases what with
    | record cls layout => exact absurd List.mem_cons_self (h cls layout)
    | type ty => rfl
    | enum name values => rfl

/-- Where all records that are registered are one, its layout counts. -/
theorem get?_records_enterAll {r : Registry} {rs : List Registration} {cls : Json}
    {layout : List (String × Ty)} (there : .record cls layout ∈ rs)
    (only : ∀ other fields, .record other fields ∈ rs → other = cls ∧ fields = layout)
    (name : String) :
    (r.enterAll rs).records.get? name =
      if name = cls.memberText then some layout else r.records.get? name := by
  induction rs generalizing r with
  | nil => simp at there
  | cons what rest ih =>
    have onlyRest : ∀ other fields, Registration.record other fields ∈ rest →
        other = cls ∧ fields = layout := fun other fields hmem =>
      only other fields (List.mem_cons_of_mem _ hmem)
    have step : (r.enter what).records.get? name = r.records.get? name ∨
        (r.enter what).records.get? name =
          if name = cls.memberText then some layout else r.records.get? name := by
      cases what with
      | record other fields =>
        obtain ⟨rfl, rfl⟩ := only other fields List.mem_cons_self
        exact Or.inr (Table.get?_insert _ _ _ _)
      | type ty => exact Or.inl rfl
      | enum name values => exact Or.inl rfl
    rw [enterAll_cons]
    by_cases later : Registration.record cls layout ∈ rest
    · rw [ih later onlyRest]
      rcases step with step | step
      · rw [step]
      · rw [step]
        split <;> rfl
    · -- No record follows, so the first registration is the record.
      have none : ∀ other fields, Registration.record other fields ∉ rest := by
        intro other fields hmem
        obtain ⟨rfl, rfl⟩ := onlyRest other fields hmem
        exact later hmem
      rcases List.mem_cons.mp there with rfl | hmem
      · rw [records_enterAll_of_none none]
        exact Table.get?_insert _ _ _ _
      · exact absurd hmem later

end Registry
end ClientBindings
