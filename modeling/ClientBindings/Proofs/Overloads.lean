import Mathlib.Data.List.Induction
import Mathlib.Order.Bounds.Basic
import ClientBindings.Proofs.Sources

/-!
# Overloads — which parameters a method may leave out

The methods of a message leave parameters out from the end, one by one, while they are optional.  The
scan goes backwards and stops at the last parameter that is mandatory, so an optional parameter in
front of a mandatory one is always given.

* `Source.mandatoryCount_concat` — one step of the scan;
* `Source.mandatoryCount_le_iff` — where the scan stops;
* `Source.mem_overloads_iff`, `pairwise_overloads` — the lists, and their order;
* `Source.Shortens`, `overloads_shorten` — all that can be said of them.
-/

namespace ClientBindings
namespace Source

variable {params given : List Param}

/-! ## The scan -/

/-- The scan goes on in front of an optional parameter, and stops behind any other. -/
theorem mandatoryCount_concat (before : List Param) (p : Param) :
    mandatoryCount (before ++ [p]) =
      if p.optional then mandatoryCount before else before.length + 1 := by
  unfold mandatoryCount
  cases optional : p.optional with
  | true => simp [optional]
  | false => simp [optional]

/-- The scan stops at the first place behind which all parameters are optional. -/
theorem mandatoryCount_le_iff {n : Nat} (bound : n ≤ params.length) :
    mandatoryCount params ≤ n ↔ ∀ p ∈ params.drop n, p.optional = true := by
  -- The scan takes parameters from the end, so the induction takes the list apart there.
  induction params using List.reverseRecOn with
  | nil => simp [mandatoryCount]
  | append_singleton before p ih =>
    rw [List.length_append, List.length_singleton] at bound
    by_cases whole : n = before.length + 1
    · have nothing : (before ++ [p]).drop n = [] := by simp [whole]
      have most := mandatoryCount_le (before ++ [p])
      rw [List.length_append, List.length_singleton, ← whole] at most
      simp [nothing, most]
    · have inside : n ≤ before.length := by omega
      rw [mandatoryCount_concat, List.drop_append_of_le_length inside, List.forall_mem_append,
        List.forall_mem_singleton, ← ih inside]
      cases p.optional with
      | true => simp
      | false =>
        have stops : ¬before.length + 1 ≤ n := by omega
        simpa using stops

/-! ## Lists of parameters -/

/-- A method has the parameters up to a place behind which all are optional. -/
theorem mem_overloads_iff :
    given ∈ overloads params ↔
      ∃ left, params = given ++ left ∧ ∀ p ∈ left, p.optional = true := by
  have most := mandatoryCount_le params
  unfold overloads
  simp only [List.mem_map, List.mem_range]
  constructor
  · rintro ⟨n, hn, rfl⟩
    refine ⟨params.drop (params.length - n), (List.take_append_drop _ params).symm, ?_⟩
    exact (mandatoryCount_le_iff (by omega)).mp (by omega)
  · rintro ⟨left, rfl, optional⟩
    have stops : mandatoryCount (given ++ left) ≤ given.length := by
      refine (mandatoryCount_le_iff (by simp)).mpr ?_
      simpa using optional
    have total : (given ++ left).length = given.length + left.length := List.length_append
    refine ⟨left.length, by omega, ?_⟩
    rw [total, Nat.add_sub_cancel, List.take_left]

theorem length_overloads (params : List Param) :
    (overloads params).length = params.length - mandatoryCount params + 1 := by
  have most := mandatoryCount_le params
  simp only [overloads, List.length_map, List.length_range]
  omega

/-- Each list is shorter than those in front of it. -/
theorem pairwise_overloads (params : List Param) :
    (overloads params).Pairwise fun longer shorter => shorter.length < longer.length := by
  have most := mandatoryCount_le params
  refine List.pairwise_map.mpr (List.pairwise_lt_range.imp_of_mem ?_)
  intro m n hm hn less
  have last := List.mem_range.mp hn
  simp only [List.length_take]
  omega

theorem head?_overloads (params : List Param) : (overloads params).head? = some params := by
  have most := mandatoryCount_le params
  have filled : params.length + 1 - mandatoryCount params ≠ 0 := by omega
  simp [overloads, List.head?_range, filled]

/-- The parameters that can be left out are the longest end of the list in which all are optional. -/
theorem isGreatest_droppable (params : List Param) :
    IsGreatest {n | ∃ kept left, params = kept ++ left ∧ (∀ p ∈ left, p.optional = true) ∧
      left.length = n} (params.length - mandatoryCount params) := by
  have most := mandatoryCount_le params
  constructor
  · refine ⟨params.take (mandatoryCount params), params.drop (mandatoryCount params),
      (List.take_append_drop _ params).symm, ?_, List.length_drop⟩
    exact (mandatoryCount_le_iff most).mp le_rfl
  · rintro n ⟨kept, left, rfl, optional, rfl⟩
    have stops : mandatoryCount (kept ++ left) ≤ kept.length := by
      refine (mandatoryCount_le_iff (by simp)).mpr ?_
      simpa using optional
    rw [List.length_append]
    omega

/-- A parameter in front of a mandatory one is given. -/
theorem prefix_of_mandatory {before after : List Param} {p last : Param}
    (split : params = before ++ p :: after) (hlast : last ∈ after)
    (mandatory : last.optional = false) (h : given ∈ overloads params) :
    before ++ [p] <+: given := by
  obtain ⟨left, parted, optional⟩ := mem_overloads_iff.mp h
  have front : before ++ [p] <+: params := ⟨after, by simp [split]⟩
  have whole : given <+: params := ⟨left, parted.symm⟩
  rcases List.prefix_or_prefix_of_prefix front whole with kept | ⟨more, hmore⟩
  · exact kept
  · -- Otherwise the mandatory parameter would be among those left out.
    have rest : left = more ++ after := by
      have same : given ++ left = given ++ (more ++ after) := by
        rw [← parted, split, ← List.append_assoc, hmore, List.append_assoc, List.singleton_append]
      exact List.append_cancel_left same
    have dropped := optional last (rest ▸ List.mem_append_right more hlast)
    rw [mandatory] at dropped
    cases dropped

/-! ## Overloads -/

/-- What can be said of the lists of parameters of a message. -/
structure Shortens (params : List Param) (lists : List (List Param)) : Prop where
  /-- They are the parameters up to the places behind which all are optional, -/
  mem_iff : ∀ given, given ∈ lists ↔
    ∃ left, params = given ++ left ∧ ∀ p ∈ left, p.optional = true
  /-- each of them once, -/
  nodup : lists.Nodup
  /-- the longer ones first, -/
  shorter : lists.Pairwise fun longer shorter => shorter.length < longer.length
  /-- from the whole list on. -/
  whole : lists.head? = some params
  /-- There is one more of them than there are parameters at the end that are all optional. -/
  count : ∃ k, IsGreatest {n | ∃ kept left, params = kept ++ left ∧
    (∀ p ∈ left, p.optional = true) ∧ left.length = n} k ∧ lists.length = k + 1
  /-- A parameter in front of a mandatory one is in all of them, in its place. -/
  keeps : ∀ before p after, params = before ++ p :: after →
    (∃ last ∈ after, last.optional = false) → ∀ given ∈ lists, before ++ [p] <+: given

theorem overloads_shorten (params : List Param) : Shortens params (overloads params) := by
  have shorter := pairwise_overloads params
  refine ⟨fun given => mem_overloads_iff, ?_, shorter, head?_overloads params, ?_, ?_⟩
  · refine shorter.imp fun less same => ?_
    rw [same] at less
    exact lt_irrefl _ less
  · exact ⟨_, isGreatest_droppable params, length_overloads params⟩
  · rintro before p after split ⟨last, hlast, mandatory⟩ given hgiven
    exact prefix_of_mandatory split hlast mandatory hgiven

end Source
end ClientBindings
