import Mathlib.Data.List.Forall2
import Mathlib.Data.List.Perm.Basic

/-!
# Fallible — computations that end in a value or a fault

A chain of fallible steps that completes has completed at every step.  The lemmas here take such a
chain apart from its result:

* `exists_related_of_mem`, `map_eq_map_of_forall₂` — lists that are related item by item;
* `Except.bind_eq_ok`, `Except.bind_congr_of_eq_ok`, `Except.map_eq_ok` — one step;
* `Except.mapM_eq_ok`, `Except.exists_mapM_eq_ok` — a step for every item of a list;
* `Except.mapM_eq_of_forall₂`, `Except.mapM_map` — lists that lead to the same, and steps whose values
  are mapped;
* `Except.FailsOnly` — a chain all of whose faults are of some kind, as those of its steps are;
* `Option.mapM_eq_some` — steps that have a value or none.
-/

namespace ClientBindings

/-- An item of a list is related to one of any list that the list is related to. -/
theorem exists_related_of_mem {α β : Type} {R : α → β → Prop} {xs : List α} {ys : List β}
    (h : List.Forall₂ R xs ys) {x : α} (hx : x ∈ xs) : ∃ y ∈ ys, R x y := by
  induction h with
  | nil => cases hx
  | cons first _ ih =>
    rcases List.mem_cons.mp hx with rfl | later
    · exact ⟨_, List.mem_cons_self, first⟩
    · rcases ih later with ⟨y, hy, related⟩
      exact ⟨y, List.mem_cons_of_mem _ hy, related⟩

/-- Lists whose items look alike, each seen in its own way. -/
theorem map_eq_map_of_forall₂ {α β γ : Type} {R : α → β → Prop} {view : β → γ} {expected : α → γ}
    {xs : List α} {ys : List β} (h : List.Forall₂ R xs ys)
    (step : ∀ x y, R x y → view y = expected x) : ys.map view = xs.map expected := by
  induction h with
  | nil => rfl
  | cons first _ ih => rw [List.map_cons, List.map_cons, ih, step _ _ first]

namespace Except

variable {ε α β : Type}

@[simp] theorem throw_eq_error (fault : ε) : (throw fault : Except ε α) = .error fault :=
  rfl

theorem bind_eq_ok {m : Except ε α} {f : α → Except ε β} {b : β} :
    m >>= f = .ok b ↔ ∃ a, m = .ok a ∧ f a = .ok b := by
  cases m with
  | error fault => simp [bind, Except.bind]
  | ok a => simp [bind, Except.bind]

/-- Only what a step comes to matters for the next one. -/
theorem bind_congr_of_eq_ok {m : Except ε α} {f g : α → Except ε β}
    (h : ∀ a, m = .ok a → f a = g a) : m >>= f = m >>= g := by
  cases m with
  | error fault => rfl
  | ok a => exact h a rfl

theorem map_eq_ok {m : Except ε α} {f : α → β} {b : β} :
    m.map f = .ok b ↔ ∃ a, m = .ok a ∧ f a = b := by
  cases m with
  | error fault => simp [Except.map]
  | ok a => simp [Except.map]

theorem eq_ok_of_toOption {m : Except ε α} {a : α} (h : m.toOption = some a) : m = .ok a := by
  cases m with
  | error fault => simp [Except.toOption] at h
  | ok b => rw [Option.some.inj h]

/-- Whether a computation completes with a value of some kind can be tested by running it. -/
instance decidableExistsOkAnd {m : Except ε α} {p : α → Prop} [DecidablePred p] :
    Decidable (∃ a, m = .ok a ∧ p a) :=
  match m with
  | .ok a => decidable_of_iff (p a) (by simp)
  | .error _ => .isFalse (by simp)

instance decidableExistsOk {m : Except ε α} : Decidable (∃ a, m = .ok a) :=
  match m with
  | .ok a => .isTrue ⟨a, rfl⟩
  | .error _ => .isFalse (by simp)

instance decidableEqOk [DecidableEq α] {m : Except ε α} {a : α} : Decidable (m = .ok a) :=
  match m with
  | .ok b => decidable_of_iff (b = a) (by simp)
  | .error _ => .isFalse (by simp)

theorem mapM_eq_ok {f : α → Except ε β} {xs : List α} {ys : List β} :
    xs.mapM f = .ok ys ↔ List.Forall₂ (fun x y => f x = .ok y) xs ys := by
  induction xs generalizing ys with
  | nil => simp [pure, Except.pure, eq_comm]
  | cons x rest ih =>
    rw [List.mapM_cons, bind_eq_ok, List.forall₂_cons_left_iff]
    constructor
    · rintro ⟨y, hy, h⟩
      obtain ⟨others, hothers, hys⟩ := bind_eq_ok.mp h
      exact ⟨y, others, hy, ih.mp hothers, (Except.ok.inj hys).symm⟩
    · rintro ⟨y, others, hy, hothers, rfl⟩
      exact ⟨y, hy, bind_eq_ok.mpr ⟨others, ih.mpr hothers, rfl⟩⟩

/-- Where every step completes, the whole list does. -/
theorem exists_mapM_eq_ok {R : α → β → Prop} {f : α → Except ε β} {xs : List α}
    (h : ∀ x ∈ xs, ∃ y, f x = .ok y ∧ R x y) :
    ∃ ys, xs.mapM f = .ok ys ∧ List.Forall₂ R xs ys := by
  induction xs with
  | nil => exact ⟨[], rfl, .nil⟩
  | cons x rest ih =>
    obtain ⟨y, hy, hxy⟩ := h x List.mem_cons_self
    obtain ⟨others, hothers, hrest⟩ := ih fun z hz => h z (List.mem_cons_of_mem _ hz)
    exact ⟨y :: others, mapM_eq_ok.mpr (.cons hy (mapM_eq_ok.mp hothers)), .cons hxy hrest⟩

/-- Where each step keeps a view of its item, the whole list keeps it. -/
theorem map_eq_of_mapM_eq_ok {γ : Type} {f : α → Except ε β} {xs : List α} {ys : List β}
    (view : β → γ) (expected : α → γ) (step : ∀ x y, f x = .ok y → view y = expected x)
    (h : xs.mapM f = .ok ys) : ys.map view = xs.map expected :=
  map_eq_map_of_forall₂ (mapM_eq_ok.mp h) step

/-- What a list of results comes from. -/
theorem exists_of_mem_of_mapM_eq_ok {f : α → Except ε β} {xs : List α} {ys : List β}
    (h : xs.mapM f = .ok ys) {y : β} (hy : y ∈ ys) : ∃ x ∈ xs, f x = .ok y :=
  exists_related_of_mem (mapM_eq_ok.mp h).flip hy

/-- What an item leads to. -/
theorem exists_of_mem_mapM {f : α → Except ε β} {xs : List α} {ys : List β}
    (h : xs.mapM f = .ok ys) {x : α} (hx : x ∈ xs) : ∃ y ∈ ys, f x = .ok y :=
  exists_related_of_mem (mapM_eq_ok.mp h) hx

theorem mem_iff_of_mapM_eq_ok {f : α → Except ε β} {xs : List α} {ys : List β}
    (h : xs.mapM f = .ok ys) {y : β} : y ∈ ys ↔ ∃ x ∈ xs, f x = .ok y := by
  constructor
  · exact exists_of_mem_of_mapM_eq_ok h
  · rintro ⟨x, hx, hfx⟩
    rcases exists_of_mem_mapM h hx with ⟨other, hother, same⟩
    exact Except.ok.inj (hfx.symm.trans same) ▸ hother

/-- The same items in another order lead to the same results in another order. -/
theorem exists_mapM_perm {f : α → Except ε β} {xs xs' : List α} {ys : List β}
    (perm : xs'.Perm xs) (h : xs.mapM f = .ok ys) : ∃ ys', xs'.mapM f = .ok ys' ∧ ys'.Perm ys := by
  obtain ⟨ys', each, same⟩ := List.perm_comp_forall₂ perm (mapM_eq_ok.mp h)
  exact ⟨ys', mapM_eq_ok.mpr each, same⟩

/-- A list either completes or has a first item that fails. -/
theorem mapM_eq_error {f : α → Except ε β} {xs : List α} {fault : ε} (h : xs.mapM f = .error fault) :
    ∃ before x after ys, xs = before ++ x :: after ∧ before.mapM f = .ok ys ∧
      f x = .error fault := by
  induction xs with
  | nil => simp [pure, Except.pure] at h
  | cons x rest ih =>
    cases hx : f x with
    | error other =>
      have same : other = fault := by simpa [List.mapM_cons, hx, bind, Except.bind] using h
      exact ⟨[], x, rest, [], rfl, rfl, same ▸ hx⟩
    | ok y =>
      have later : rest.mapM f = .error fault := by
        cases hrest : rest.mapM f with
        | error other => simpa [List.mapM_cons, hx, hrest, bind, Except.bind] using h
        | ok ys => simp [List.mapM_cons, hx, hrest, bind, Except.bind, pure, Except.pure] at h
      obtain ⟨before, z, after, ys, rfl, hbefore, hz⟩ := ih later
      exact ⟨x :: before, z, after, y :: ys, rfl,
        mapM_eq_ok.mpr (.cons hx (mapM_eq_ok.mp hbefore)), hz⟩

/-! ## The same steps -/

/-- Steps that differ in what is made of their values in the end. -/
theorem bind_eq_map_bind {γ : Type} {m : Except ε α} {f : α → Except ε β} {g : α → Except ε γ}
    {k : β → γ} (h : ∀ a, g a = (f a).map k) : m >>= g = (m >>= f).map k := by
  cases m with
  | error fault => rfl
  | ok a => exact h a

theorem mapM_map {γ : Type} (f : α → Except ε β) (k : β → γ) (xs : List α) :
    (xs.mapM fun x => (f x).map k) = (xs.mapM f).map (List.map k) := by
  induction xs with
  | nil => rfl
  | cons x rest ih =>
    rw [List.mapM_cons, List.mapM_cons, ih]
    cases f x with
    | error fault => rfl
    | ok y => cases rest.mapM f <;> rfl

/-- Lists whose items lead to the same step by step. -/
theorem mapM_eq_of_forall₂ {γ : Type} {R : α → γ → Prop} {f : α → Except ε β} {g : γ → Except ε β}
    {xs : List α} {ys : List γ} (h : List.Forall₂ R xs ys) (step : ∀ x y, R x y → g y = f x) :
    ys.mapM g = xs.mapM f := by
  induction h with
  | nil => rfl
  | cons hxy _ ih => rw [List.mapM_cons, List.mapM_cons, step _ _ hxy, ih]

/-! ## Kinds of faults -/

/-- Every fault of a computation is of the kind `P`. -/
def FailsOnly (P : ε → Prop) (m : Except ε α) : Prop :=
  ∀ fault, m = .error fault → P fault

namespace FailsOnly

variable {P : ε → Prop}

theorem ok (a : α) : FailsOnly P (.ok a : Except ε α) := by
  intro fault h
  simp at h

theorem error {fault : ε} (h : P fault) : FailsOnly P (.error fault : Except ε α) := by
  intro other same
  exact Except.error.inj same ▸ h

theorem bind {m : Except ε α} {f : α → Except ε β} (hm : FailsOnly P m)
    (hf : ∀ a, m = .ok a → FailsOnly P (f a)) : FailsOnly P (m >>= f) := by
  cases m with
  | error fault => exact error (hm fault rfl)
  | ok a => exact hf a rfl

theorem map {m : Except ε α} (hm : FailsOnly P m) (f : α → β) : FailsOnly P (m.map f) := by
  cases m with
  | error fault => exact error (hm fault rfl)
  | ok a => exact ok (f a)

theorem mapM {f : α → Except ε β} {xs : List α} (h : ∀ x ∈ xs, FailsOnly P (f x)) :
    FailsOnly P (xs.mapM f) := by
  intro fault failed
  -- A list fails with the fault of its first item that fails.
  obtain ⟨before, x, after, ys, rfl, _, hx⟩ := mapM_eq_error failed
  exact h x (List.mem_append_right _ List.mem_cons_self) fault hx

theorem foldlM {f : β → α → Except ε β} {xs : List α} (h : ∀ b, ∀ x ∈ xs, FailsOnly P (f b x))
    (start : β) : FailsOnly P (xs.foldlM f start) := by
  induction xs generalizing start with
  | nil => exact ok start
  | cons x rest ih =>
    rw [List.foldlM_cons]
    refine (h start x List.mem_cons_self).bind fun next _ => ?_
    exact ih (fun b y hy => h b y (List.mem_cons_of_mem _ hy)) next

end FailsOnly
end Except

namespace Option

variable {α β : Type}

/-- A step for every item of a list has a value where each step has. -/
theorem mapM_eq_some {f : α → Option β} {xs : List α} {ys : List β} :
    xs.mapM f = some ys ↔ List.Forall₂ (fun x y => f x = some y) xs ys := by
  induction xs generalizing ys with
  | nil => simp [eq_comm]
  | cons x rest ih =>
    rw [List.mapM_cons, List.forall₂_cons_left_iff]
    constructor
    · intro h
      rcases Option.bind_eq_some_iff.mp h with ⟨y, hy, h⟩
      rcases Option.bind_eq_some_iff.mp h with ⟨others, hothers, h⟩
      exact ⟨y, others, hy, ih.mp hothers, (Option.some.inj h).symm⟩
    · rintro ⟨y, others, hy, hothers, rfl⟩
      have later : (rest.mapM f).bind (fun others => some (y :: others)) = some (y :: others) :=
        Option.bind_eq_some_iff.mpr ⟨others, ih.mpr hothers, rfl⟩
      exact Option.bind_eq_some_iff.mpr ⟨y, hy, later⟩

end Option
end ClientBindings
