import ClientBindings.Table
import Mathlib.Data.List.Forall2
import Mathlib.Data.List.Nodup

/-!
# Table — what a table holds after a write

* `Table.get?_insert` — the last write of a name counts, and no other entry changes;
* `Table.mem_insert` — entries were there or are the one that is written;
* `Table.mem_names_insert`, `Table.nodup_names_insert` — a write adds its name, once;
* `Table.get?_of_mem` — entries of distinct names are looked up by them;
* `Table.exists_get?_of_forall₂` — look-up in tables of the same names;
* `exists_last` — what counts where the last of some items does;
* `rel_find?` — look-up in related lists.
-/

namespace ClientBindings

/-- A list with items of some kind has a last one of them. -/
theorem exists_last {α : Type} {p : α → Prop} {xs : List α} (h : ∃ x ∈ xs, p x) :
    ∃ before x after, xs = before ++ x :: after ∧ p x ∧ ∀ y ∈ after, ¬p y := by
  induction xs with
  | nil => simp at h
  | cons first rest ih =>
    by_cases later : ∃ x ∈ rest, p x
    · rcases ih later with ⟨before, x, after, rfl, hx, none⟩
      exact ⟨first :: before, x, after, rfl, hx, none⟩
    · rcases h with ⟨x, hx, is⟩
      rcases List.mem_cons.mp hx with rfl | there
      · exact ⟨[], x, rest, rfl, is, fun y hy hp => later ⟨y, hy, hp⟩⟩
      · exact absurd ⟨x, there, is⟩ later

/-- Look-up that asks the same of related items finds related items. -/
theorem rel_find? {α β : Type} {R : α → β → Prop} {p : α → Bool} {q : β → Bool} {xs : List α}
    {ys : List β} (h : List.Forall₂ R xs ys) (same : ∀ x y, R x y → p x = q y) :
    Option.Rel R (xs.find? p) (ys.find? q) := by
  induction h with
  | nil => exact .none
  | @cons x y _ _ first _ ih =>
    rw [List.find?_cons, List.find?_cons, same x y first]
    cases q y with
    | true => exact .some first
    | false => exact ih

namespace Table

variable {α : Type}

theorem mem_of_lookup_eq_some {κ : Type} [BEq κ] [LawfulBEq κ] {entries : List (κ × α)} {key : κ}
    {entry : α} (h : entries.lookup key = some entry) : (key, entry) ∈ entries := by
  rcases List.lookup_eq_some_iff.mp h with ⟨before, after, rfl, _⟩
  exact List.mem_append_right _ List.mem_cons_self

theorem get?_cons (name : String) (entry : α) (rest : Table α) (other : String) :
    get? ((name, entry) :: rest) other = if other = name then some entry else rest.get? other := by
  simp only [get?, List.lookup_cons]
  by_cases h : other = name
  · simp [h]
  · simp [beq_eq_false_iff_ne.mpr h, h]

theorem get?_insert (t : Table α) (name : String) (entry : α) (other : String) :
    (t.insert name entry).get? other = if other = name then some entry else t.get? other := by
  induction t with
  | nil => simp only [insert, get?_cons]
  | cons e rest ih =>
    obtain ⟨first, old⟩ := e
    by_cases h : first = name
    · subst h
      simp only [insert, ite_true, get?_cons]
      split <;> rfl
    · simp only [insert, h, ite_false, get?_cons, ih]
      -- The entry in front keeps its name, so it hides no write of another one.
      by_cases hother : other = first
      · have : other ≠ name := fun same => h (hother.symm.trans same)
        simp [hother, h]
      · simp [hother]

theorem mem_insert {t : Table α} {name : String} {entry : α} {e : String × α}
    (h : e ∈ t.insert name entry) : e = (name, entry) ∨ e ∈ t := by
  induction t with
  | nil => exact Or.inl (List.mem_singleton.mp h)
  | cons first rest ih =>
    simp only [insert] at h
    split at h
    · rcases List.mem_cons.mp h with same | later
      · exact Or.inl same
      · exact Or.inr (List.mem_cons_of_mem _ later)
    · rcases List.mem_cons.mp h with same | later
      · exact Or.inr (same ▸ List.mem_cons_self)
      · exact (ih later).imp_right (List.mem_cons_of_mem _)

theorem mem_names_insert {t : Table α} {name other : String} {entry : α} :
    other ∈ (t.insert name entry).names ↔ other = name ∨ other ∈ t.names := by
  induction t with
  | nil => simp [insert, names]
  | cons e rest ih =>
    obtain ⟨first, old⟩ := e
    by_cases h : first = name
    · simp [insert, names, h]
    · have tail : other ∈ names (insert name entry rest) ↔ other = name ∨ other ∈ names rest := ih
      simp only [insert, h, ite_false, names, List.map_cons, List.mem_cons] at tail ⊢
      rw [tail]
      tauto

theorem nodup_names_insert {t : Table α} (h : t.names.Nodup) (name : String) (entry : α) :
    (t.insert name entry).names.Nodup := by
  induction t with
  | nil => simp [insert, names]
  | cons e rest ih =>
    obtain ⟨first, old⟩ := e
    have parts : first ∉ names rest ∧ (names rest).Nodup := List.nodup_cons.mp h
    by_cases hname : first = name
    · subst hname
      simpa [insert, names] using h
    · have fresh : first ∉ names (insert name entry rest) := by
        rw [mem_names_insert]
        rintro (same | old)
        · exact hname same
        · exact parts.1 old
      simpa [insert, hname, names] using List.nodup_cons.mpr ⟨fresh, ih parts.2⟩

theorem get?_isSome_iff {t : Table α} {name : String} :
    (t.get? name).isSome = true ↔ name ∈ t.names := by
  induction t with
  | nil => simp [get?, names]
  | cons e rest ih =>
    obtain ⟨first, entry⟩ := e
    have tail : (get? rest name).isSome = true ↔ name ∈ rest.map Prod.fst := ih
    rw [get?_cons]
    by_cases h : name = first
    · simp [h, names]
    · simp [h, names, tail]

/-- Where names are distinct, each entry is the one of its name. -/
theorem get?_of_mem {t : Table α} (distinct : t.names.Nodup) {name : String} {entry : α}
    (h : (name, entry) ∈ t) : t.get? name = some entry := by
  induction t with
  | nil => simp at h
  | cons e rest ih =>
    obtain ⟨first, old⟩ := e
    have parts : first ∉ names rest ∧ (names rest).Nodup := List.nodup_cons.mp distinct
    rw [get?_cons]
    rcases List.mem_cons.mp h with same | later
    · obtain ⟨rfl, rfl⟩ := Prod.mk.inj same
      exact if_pos rfl
    · have other : name ≠ first := by
        rintro rfl
        exact parts.1 (List.mem_map_of_mem later)
      rw [if_neg other]
      exact ih parts.2 later

/-- An entry of a table that was made of another one, entry by entry. -/
theorem exists_get?_of_forall₂ {β : Type} {R : α → β → Prop} {t : Table α} {u : Table β}
    (h : List.Forall₂ (fun old new => old.1 = new.1 ∧ R old.2 new.2) t u) {name : String} {entry : β}
    (found : u.get? name = some entry) : ∃ old, t.get? name = some old ∧ R old entry := by
  induction h with
  | nil => cases found
  | @cons old new rest others first _ ih =>
    rw [get?_cons] at found ⊢
    rw [first.1]
    by_cases here : name = new.1
    · rw [if_pos here] at found ⊢
      exact ⟨old.2, rfl, Option.some.inj found ▸ first.2⟩
    · rw [if_neg here] at found ⊢
      exact ih found

end Table
end ClientBindings
