import ClientBindings.Proofs.Registry

/-!
# Verdict — how a computation ends, told from its input

A computation completes, stops with a fault of a kind that is allowed for, or fails with another.
Which of the three it is can be told from its input by two conditions: whether the input is fine, and
whether it makes the computation stop.  A chain is judged from its steps: a step behind one that
stops is not asked for anything.

* `List.through` — the items of a list up to the first that stops;
* `Except.Judged`, `Except.Needs` — a computation with its two conditions, and one that never stops;
* `Emission.Judged`, `Emission.Needs` — the same for an emission in a registry that is not frozen.
-/

namespace ClientBindings

/-! ## Items up to the first that stops -/

/-- The items of a list up to the first that stops, which is among them. -/
def through {α : Type} (stop : α → Bool) : List α → List α
  | [] => []
  | x :: rest => if stop x then [x] else x :: through stop rest

theorem forall_mem_through_cons {α : Type} {stop : α → Bool} {x : α} {rest : List α}
    {c : α → Prop} : (∀ y ∈ through stop (x :: rest), c y) ↔
      c x ∧ (¬stop x = true → ∀ y ∈ through stop rest, c y) := by
  by_cases h : stop x = true
  · simp [through, h]
  · simp [through, h]

/-- Nothing that comes behind the first item that stops is looked at. -/
theorem through_append_of_stop {α : Type} {stop : α → Bool} {before after : List α} {x : α}
    (front : ∀ y ∈ before, stop y = false) (stops : stop x = true) :
    through stop (before ++ x :: after) = before ++ [x] := by
  induction before with
  | nil => simp [through, stops]
  | cons y rest ih =>
    have tail := ih fun z hz => front z (List.mem_cons_of_mem _ hz)
    simp [through, front y List.mem_cons_self, tail]

theorem through_eq_self {α : Type} {stop : α → Bool} {xs : List α}
    (none : ∀ x ∈ xs, ¬stop x = true) : through stop xs = xs := by
  induction xs with
  | nil => rfl
  | cons x rest ih =>
    have first : ¬stop x = true := none x List.mem_cons_self
    have tail := ih fun y hy => none y (List.mem_cons_of_mem _ hy)
    simp [through, first, tail]

/-! ## Computations -/

namespace Except

variable {ε α β : Type} {P : ε → Prop} {c c' b b' : Prop}

/-- Where its input is `fine`, a computation completes, unless it `stops` with a fault of the kind
`P`.  Elsewhere it fails with another fault. -/
structure Judged (P : ε → Prop) (fine stops : Prop) (m : Except ε α) : Prop where
  completes : fine → ¬stops → ∃ a, m = .ok a
  stopped : fine → stops → ∃ fault, m = .error fault ∧ P fault
  fails : ¬fine → ∃ fault, m = .error fault ∧ ¬P fault

/-- A computation that completes exactly where its input is `fine`. -/
abbrev Needs (P : ε → Prop) (fine : Prop) (m : Except ε α) : Prop :=
  Judged P fine False m

namespace Judged

variable {m : Except ε α}

theorem congr (h : Judged P c b m) (fine : c' ↔ c) (stops : b' ↔ b) : Judged P c' b' m := by
  rw [fine, stops]
  exact h

theorem ok (a : α) : Needs P True (.ok a : Except ε α) :=
  ⟨fun _ _ => ⟨a, rfl⟩, fun _ stops => stops.elim, fun rough => absurd trivial rough⟩

theorem error {fault : ε} (other : ¬P fault) : Needs P False (.error fault : Except ε α) :=
  ⟨fun fine => fine.elim, fun fine => fine.elim, fun _ => ⟨fault, rfl, other⟩⟩

theorem stop {fault : ε} (allowed : P fault) : Judged P True True (.error fault : Except ε α) :=
  ⟨fun _ goes => absurd trivial goes, fun _ _ => ⟨fault, rfl, allowed⟩,
    fun rough => absurd trivial rough⟩

theorem exists_ok_iff (h : Judged P c b m) : (∃ a, m = .ok a) ↔ c ∧ ¬b := by
  constructor
  · rintro ⟨a, rfl⟩
    have fine : c := by
      by_contra rough
      obtain ⟨fault, failed, _⟩ := h.fails rough
      cases failed
    refine ⟨fine, ?_⟩
    intro stops
    obtain ⟨fault, failed, _⟩ := h.stopped fine stops
    cases failed
  · rintro ⟨fine, goes⟩
    exact h.completes fine goes

/-- All faults are of the kind `P` exactly where the input is fine. -/
theorem failsOnly_iff (h : Judged P c b m) : FailsOnly P m ↔ c := by
  constructor
  · intro only
    by_contra rough
    obtain ⟨fault, failed, other⟩ := h.fails rough
    exact other (only fault failed)
  · intro fine fault failed
    by_cases stops : b
    · obtain ⟨other, same, allowed⟩ := h.stopped fine stops
      rw [failed] at same
      cases same
      exact allowed
    · obtain ⟨a, completed⟩ := h.completes fine stops
      rw [failed] at completed
      cases completed

/-- Where a step stops, nothing is asked of what comes behind it. -/
theorem bind {f : α → Except ε β} (hm : Judged P c b m)
    (hf : ∀ a, m = .ok a → Judged P c' b' (f a)) :
    Judged P (c ∧ (¬b → c')) (b ∨ b') (m >>= f) := by
  refine ⟨?_, ?_, ?_⟩
  · rintro ⟨fine, later⟩ goes
    have first : ¬b := fun stops => goes (Or.inl stops)
    obtain ⟨a, rfl⟩ := hm.completes fine first
    exact (hf a rfl).completes (later first) fun stops => goes (Or.inr stops)
  · rintro ⟨fine, later⟩ stops
    by_cases first : b
    · obtain ⟨fault, rfl, allowed⟩ := hm.stopped fine first
      exact ⟨fault, rfl, allowed⟩
    · obtain ⟨a, rfl⟩ := hm.completes fine first
      exact (hf a rfl).stopped (later first) (stops.resolve_left first)
  · intro rough
    by_cases fine : c
    · have first : ¬b := fun stops => rough ⟨fine, fun goes => absurd stops goes⟩
      obtain ⟨a, rfl⟩ := hm.completes fine first
      exact (hf a rfl).fails fun later => rough ⟨fine, fun _ => later⟩
    · obtain ⟨fault, rfl, other⟩ := hm.fails fine
      exact ⟨fault, rfl, other⟩

/-- Behind a step that never stops, everything is asked of the next one. -/
theorem needs_bind {f : α → Except ε β} (hm : Needs P c m)
    (hf : ∀ a, m = .ok a → Judged P c' b' (f a)) : Judged P (c ∧ c') b' (m >>= f) := by
  refine (hm.bind hf).congr ?_ ?_
  · rw [not_false_eq_true, true_imp_iff]
  · rw [false_or]

/-- Giving a value back asks for nothing more. -/
theorem bind_pure (h : Judged P c b m) (f : α → β) : Judged P c b (m >>= fun a => pure (f a)) := by
  refine (h.bind fun a _ => ok (f a)).congr ?_ ?_
  · simp
  · simp

/-- A list of steps asks for those up to the first that stops. -/
theorem mapM {f : α → Except ε β} {xs : List α} {fine : α → Prop} {stop : α → Bool}
    (h : ∀ x ∈ xs, Judged P (fine x) (stop x = true) (f x)) :
    Judged P (∀ x ∈ through stop xs, fine x) (∃ x ∈ xs, stop x = true) (xs.mapM f) := by
  induction xs with
  | nil => exact (ok []).congr (by simp [through]) (by simp)
  | cons x rest ih =>
    have tail := ih fun y hy => h y (List.mem_cons_of_mem _ hy)
    have chain := (h x List.mem_cons_self).bind fun y _ => tail.bind_pure (y :: ·)
    rw [List.mapM_cons]
    refine chain.congr forall_mem_through_cons ?_
    simp only [List.mem_cons, exists_eq_or_imp]

theorem needs_mapM {f : α → Except ε β} {xs : List α} {fine : α → Prop}
    (h : ∀ x ∈ xs, Needs P (fine x) (f x)) : Needs P (∀ x ∈ xs, fine x) (xs.mapM f) := by
  have judged : Judged P (∀ x ∈ through (fun _ => false) xs, fine x)
      (∃ x ∈ xs, (fun _ => false) x = true) (xs.mapM f) :=
    mapM fun x hx => (h x hx).congr Iff.rfl (by simp)
  refine judged.congr ?_ (by simp)
  rw [through_eq_self (by simp)]

theorem of_failsOnly (only : FailsOnly P m) : Judged P True (∃ fault, m = .error fault) m := by
  refine ⟨?_, ?_, fun rough => absurd trivial rough⟩
  · intro _ goes
    cases m with
    | ok a => exact ⟨a, rfl⟩
    | error fault => exact absurd ⟨fault, rfl⟩ goes
  · rintro _ ⟨fault, failed⟩
    exact ⟨fault, failed, only fault failed⟩

end Judged
end Except

/-! ## Emissions -/

/-- A fault that lies in the schema, and is reported by its message. -/
abbrev Fault.Reported (fault : Fault) : Prop :=
  fault.isReported = true

namespace Emission

variable {α β : Type}

theorem settled_meet (e : Encounter) : (meet e).settled =
    if (registrationsOf [e]).all Registration.isPlain then .ok () else .error .notAName :=
  settled_eq (meet e)

/-- A chain of emissions settles step by step. -/
theorem settled_bind (m : Emission α) (f : α → Emission β) :
    (m >>= f).settled = m.settled >>= fun a => (f a).settled := by
  rw [settled_eq (m >>= f), settled_eq m]
  cases hm : m.result with
  | error fault =>
    rw [registered_bind_of_error hm, result_bind, hm]
    split <;> rfl
  | ok a =>
    rw [registered_bind_of_ok hm, result_bind, hm, List.all_append]
    by_cases plain : m.registered.all Registration.isPlain = true
    · simp only [plain, Bool.true_and, if_true]
      exact (settled_eq (f a)).symm
    · simp only [plain, Bool.false_and]
      rfl

/-- How an emission ends in a registry that is not frozen, where faults of the schema stop it. -/
abbrev Judged (fine stops : Prop) (m : Emission α) : Prop :=
  Except.Judged Fault.Reported fine stops m.settled

/-- An emission that completes exactly where its input is `fine`. -/
abbrev Needs (fine : Prop) (m : Emission α) : Prop :=
  m.Judged fine False

namespace Judged

variable {c c' b b' : Prop} {m : Emission α}

theorem pure (a : α) : (pure a : Emission α).Needs True :=
  Except.Judged.ok a

/-- What has completed once asks for nothing more. -/
theorem of_ok {a : α} (h : m.settled = .ok a) : m.Needs True := by
  unfold Needs Judged
  rw [h]
  exact Except.Judged.ok a

theorem liftM {e : Except Fault α}
    (h : Except.Judged Fault.Reported c b e) :
    (liftM e : Emission α).Judged c b :=
  h

theorem meet (what : Registration) :
    (Emission.meet (.registration what)).Needs (what.isPlain = true) := by
  have settled := settled_meet (.registration what)
  have single : (registrationsOf [.registration what]).all Registration.isPlain = what.isPlain := by
    simp [registrationsOf, Encounter.registration?]
  rw [single] at settled
  unfold Needs Judged
  rw [settled]
  cases what.isPlain with
  | true => exact (Except.Judged.ok ()).congr (by simp) Iff.rfl
  | false => exact (Except.Judged.error (by decide)).congr (by simp) Iff.rfl

theorem note (note : Note) : (Emission.meet (.note note)).Needs True :=
  Except.Judged.ok ()

theorem bind {f : α → Emission β} (hm : m.Judged c b)
    (hf : ∀ a, m.settled = .ok a → (f a).Judged c' b') :
    (m >>= f).Judged (c ∧ (¬b → c')) (b ∨ b') := by
  unfold Judged
  rw [settled_bind]
  exact Except.Judged.bind hm hf

theorem needs_bind {f : α → Emission β} (hm : m.Needs c)
    (hf : ∀ a, m.settled = .ok a → (f a).Judged c' b') : (m >>= f).Judged (c ∧ c') b' := by
  unfold Judged
  rw [settled_bind]
  exact Except.Judged.needs_bind hm hf

/-- Giving a value back asks for nothing more. -/
theorem bind_pure (hm : m.Judged c b) (f : α → β) : (m >>= fun a => Pure.pure (f a)).Judged c b := by
  unfold Judged
  rw [settled_bind]
  exact Except.Judged.bind_pure hm f

theorem map (hm : m.Judged c b) (f : α → β) : (f <$> m).Judged c b := by
  rw [map_eq_pure_bind]
  exact hm.bind_pure f

/-- What a choice asks for is told by the branch that is taken. -/
theorem needs_ite {d : Prop} [Decidable d] {n : Emission α} (hm : d → m.Needs c)
    (hn : ¬d → n.Needs c') : (if d then m else n).Needs ((d → c) ∧ (¬d → c')) := by
  by_cases h : d
  · rw [if_pos h]
    exact (hm h).congr (by simp [h]) Iff.rfl
  · rw [if_neg h]
    exact (hn h).congr (by simp [h]) Iff.rfl

theorem settled_mapM (f : α → Emission β) (xs : List α) :
    (xs.mapM f).settled = xs.mapM fun x => (f x).settled := by
  induction xs with
  | nil => rfl
  | cons x rest ih =>
    rw [List.mapM_cons, List.mapM_cons, settled_bind]
    congr 1
    funext y
    rw [settled_bind, ih]
    rfl

theorem mapM {f : α → Emission β} {xs : List α} {fine : α → Prop} {stop : α → Bool}
    (h : ∀ x ∈ xs, (f x).Judged (fine x) (stop x = true)) :
    (xs.mapM f).Judged (∀ x ∈ through stop xs, fine x) (∃ x ∈ xs, stop x = true) := by
  unfold Judged
  rw [settled_mapM]
  exact Except.Judged.mapM h

theorem needs_mapM {f : α → Emission β} {xs : List α} {fine : α → Prop}
    (h : ∀ x ∈ xs, (f x).Needs (fine x)) : (xs.mapM f).Needs (∀ x ∈ xs, fine x) := by
  unfold Needs Judged
  rw [settled_mapM]
  exact Except.Judged.needs_mapM h

end Judged
end Emission
end ClientBindings
