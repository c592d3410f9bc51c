import ClientBindings.Text.Blank
import ClientBindings.Text.Word
import Mathlib.Data.List.DropRight

/-!
# Blanks — blanks around a text and in it

Stripping takes the blanks from both ends of a text and leaves what stands between them.

* `Text.Tight` — a text without blanks at its ends, as stripping leaves it;
* `Text.Blanks`, `Text.Padded` — a text of blanks, and a text with blanks around it;
* `Text.strip_of_padded`, `Text.padded_strip` — stripping undoes padding, and a text is what
  stripping leaves of it, padded;
* `Text.bare` — a text without any blanks.
-/

namespace ClientBindings
namespace Text

/-! ## Blanks are no words -/

theorem exists_range_of_inRanges {n : Nat} {ranges : List (Nat × Nat)}
    (h : inRanges n ranges = true) : ∃ r ∈ ranges, r.1 ≤ n ∧ n ≤ r.2 := by
  induction ranges with
  | nil => simp [inRanges] at h
  | cons r rest ih =>
    obtain ⟨first, last⟩ := r
    simp only [inRanges] at h
    split at h
    · simp at h
    · next started =>
      rcases Bool.or_eq_true_iff.mp h with here | later
      · exact ⟨(first, last), List.mem_cons_self, Nat.le_of_not_lt started, of_decide_eq_true here⟩
      · obtain ⟨r, hr, inside⟩ := ih later
        exact ⟨r, List.mem_cons_of_mem _ hr, inside⟩

theorem blankRanges_apart_wordRanges :
    ∀ r ∈ blankRanges, ∀ s ∈ wordRanges, r.2 < s.1 ∨ s.2 < r.1 := by
  decide +kernel

theorem isWord_of_isBlank {c : Char} (h : isBlank c = true) : isWord c = false := by
  cases word : isWord c with
  | false => rfl
  | true =>
    obtain ⟨r, hr, rInside⟩ := exists_range_of_inRanges h
    obtain ⟨s, hs, sInside⟩ := exists_range_of_inRanges word
    have apart := blankRanges_apart_wordRanges r hr s hs
    omega

/-! ## Texts without blanks at their ends -/

/-- Whether a text starts and ends with something else than a blank. -/
structure Tight (cs : List Char) : Prop where
  head : ∃ c rest, cs = c :: rest ∧ isBlank c = false
  last : ∃ front c, cs = front ++ [c] ∧ isBlank c = false

theorem head_of_dropWhile {c : Char} {rest : List Char}
    (h : (c :: rest).dropWhile isBlank = c :: rest) : isBlank c = false := by
  cases hc : isBlank c with
  | false => rfl
  | true =>
    have shorter := List.length_dropWhile_le isBlank rest
    have same : rest.dropWhile isBlank = c :: rest := by simpa [hc] using h
    rw [same, List.length_cons] at shorter
    omega

/-- What a text starts with once the blanks in front are dropped. -/
theorem isBlank_of_dropWhile_eq_cons {cs rest : List Char} {c : Char}
    (h : cs.dropWhile isBlank = c :: rest) : isBlank c = false := by
  refine @head_of_dropWhile c rest ?_
  rw [← h]
  exact List.dropWhile_idempotent isBlank cs

theorem stripEnd_prefix (cs : List Char) : stripEnd cs <+: cs := by
  have suffix : cs.reverse.dropWhile isBlank <:+ cs.reverse := List.dropWhile_suffix isBlank
  have turned := List.reverse_prefix.mpr suffix
  simpa [stripEnd] using turned

theorem tight_strip {cs : List Char} (filled : strip cs ≠ []) : Tight (strip cs) := by
  constructor
  · -- Stripping the end leaves the first character where it is.
    obtain ⟨behind, whole⟩ := stripEnd_prefix (stripStart cs)
    obtain ⟨c, rest, hstrip⟩ := List.exists_cons_of_ne_nil filled
    have starts : cs.dropWhile isBlank = c :: (rest ++ behind) := by
      rw [strip] at hstrip
      rw [hstrip] at whole
      exact whole.symm
    exact ⟨c, rest, hstrip, isBlank_of_dropWhile_eq_cons starts⟩
  · have filledToo : (stripStart cs).reverse.dropWhile isBlank ≠ [] := by
      intro empty
      apply filled
      simp [strip, stripEnd, empty]
    obtain ⟨c, rest, hrev⟩ := List.exists_cons_of_ne_nil filledToo
    have ends : strip cs = rest.reverse ++ [c] := by simp [strip, stripEnd, hrev]
    exact ⟨rest.reverse, c, ends, isBlank_of_dropWhile_eq_cons hrev⟩

theorem tight_of_strip {cs : List Char} (filled : cs ≠ []) (h : strip cs = cs) : Tight cs := by
  have stripped : strip cs ≠ [] := by
    rw [h]
    exact filled
  exact h ▸ tight_strip stripped

theorem Tight.ne_nil {cs : List Char} (h : Tight cs) : cs ≠ [] := by
  obtain ⟨c, rest, rfl, _⟩ := h.head
  simp

theorem Tight.append {first second : List Char} (hfirst : Tight first) (between : List Char)
    (hsecond : Tight second) : Tight (first ++ between ++ second) := by
  obtain ⟨c, rest, rfl, hc⟩ := hfirst.head
  obtain ⟨front, d, rfl, hd⟩ := hsecond.last
  constructor
  · exact ⟨c, rest ++ between ++ (front ++ [d]), by simp, hc⟩
  · exact ⟨c :: rest ++ between ++ front, d, by simp, hd⟩

/-! ## Padding -/

/-- A text of blanks only. -/
def Blanks (cs : List Char) : Prop :=
  ∀ c ∈ cs, isBlank c = true

instance (cs : List Char) : Decidable (Blanks cs) :=
  decidable_of_iff (cs.all isBlank = true) List.all_eq_true

theorem blanks_nil : Blanks [] := by
  simp [Blanks]

theorem blanks_takeWhile (cs : List Char) : Blanks (cs.takeWhile isBlank) := by
  intro c hc
  exact List.mem_takeWhile_imp hc

theorem not_mem_of_blanks {cs : List Char} (h : Blanks cs) {c : Char} (filled : isBlank c = false) :
    c ∉ cs := by
  intro inside
  simp [h c inside] at filled

/-- A text with blanks around it. -/
inductive Padded (inner : List Char) : List Char → Prop where
  | intro {left right : List Char} : Blanks left → Blanks right →
      Padded inner (left ++ inner ++ right)

theorem padded_self (inner : List Char) : Padded inner inner := by
  have bare : Padded inner ([] ++ inner ++ []) := .intro blanks_nil blanks_nil
  simpa using bare

theorem Padded.trans {inner middle text : List Char} (h : Padded inner middle)
    (around : Padded middle text) : Padded inner text := by
  obtain @⟨left, right, hleft, hright⟩ := h
  obtain @⟨left', right', hleft', hright'⟩ := around
  have before : Blanks (left' ++ left) := fun c hc => (List.mem_append.mp hc).elim (hleft' c) (hleft c)
  have behind : Blanks (right ++ right') := fun c hc =>
    (List.mem_append.mp hc).elim (hright c) (hright' c)
  have whole : Padded inner (left' ++ left ++ inner ++ (right ++ right')) := .intro before behind
  simpa using whole

theorem dropWhile_blanks {blanks : List Char} (h : Blanks blanks) (rest : List Char) :
    (blanks ++ rest).dropWhile isBlank = rest.dropWhile isBlank :=
  List.dropWhile_append_of_pos h

theorem strip_of_padded {inner text : List Char} (tight : Tight inner) (h : Padded inner text) :
    strip text = inner := by
  obtain @⟨left, right, hleft, hright⟩ := h
  obtain ⟨⟨c, rest, rfl, hc⟩, ⟨front, d, hd, hblank⟩⟩ := tight
  have start : stripStart (left ++ (c :: rest) ++ right) = c :: rest ++ right := by
    have := dropWhile_blanks hleft (c :: rest ++ right)
    simpa [stripStart, hc] using this
  have backwards : Blanks right.reverse := fun x hx => hright x (List.mem_reverse.mp hx)
  have stop : stripEnd (c :: rest ++ right) = c :: rest := by
    rw [hd]
    simp [stripEnd, dropWhile_blanks backwards, hblank]
  calc
    strip (left ++ (c :: rest) ++ right) = stripEnd (stripStart (left ++ (c :: rest) ++ right)) := rfl
    _ = stripEnd (c :: rest ++ right) := by rw [start]
    _ = c :: rest := stop

/-- A text is what stripping leaves of it, with blanks around. -/
theorem padded_strip (cs : List Char) : Padded (strip cs) cs := by
  have front : cs = cs.takeWhile isBlank ++ stripStart cs :=
    List.takeWhile_append_dropWhile.symm
  have back : stripStart cs = strip cs ++ ((stripStart cs).reverse.takeWhile isBlank).reverse := by
    have split : (stripStart cs).reverse.takeWhile isBlank ++
        (stripStart cs).reverse.dropWhile isBlank = (stripStart cs).reverse :=
      List.takeWhile_append_dropWhile
    have turned := congrArg List.reverse split
    rw [List.reverse_append, List.reverse_reverse] at turned
    exact turned.symm
  have behind : Blanks ((stripStart cs).reverse.takeWhile isBlank).reverse := fun c hc =>
    blanks_takeWhile _ c (List.mem_reverse.mp hc)
  have whole : cs = cs.takeWhile isBlank ++ strip cs ++
      ((stripStart cs).reverse.takeWhile isBlank).reverse := by
    rw [List.append_assoc, ← back]
    exact front
  have padded : Padded (strip cs) (cs.takeWhile isBlank ++ strip cs ++
      ((stripStart cs).reverse.takeWhile isBlank).reverse) := .intro (blanks_takeWhile cs) behind
  rwa [← whole] at padded

theorem strip_strip (cs : List Char) : strip (strip cs) = strip cs := by
  by_cases empty : strip cs = []
  · rw [empty]
    rfl
  · exact strip_of_padded (tight_strip empty) (padded_self _)

/-! ## Texts without their blanks -/

/-- A text without its blanks. -/
def bare (cs : List Char) : List Char :=
  cs.filter fun c => !isBlank c

@[simp] theorem bare_nil : bare [] = [] :=
  rfl

@[simp] theorem bare_append (first second : List Char) :
    bare (first ++ second) = bare first ++ bare second :=
  List.filter_append ..

theorem bare_cons {c : Char} (filled : isBlank c = false) (rest : List Char) :
    bare (c :: rest) = c :: bare rest := by
  simp [bare, filled]

theorem bare_cons_of_isBlank {c : Char} (blank : isBlank c = true) (rest : List Char) :
    bare (c :: rest) = bare rest := by
  simp [bare, blank]

theorem bare_blanks {cs : List Char} (h : Blanks cs) : bare cs = [] := by
  apply List.filter_eq_nil_iff.mpr
  intro c hc
  simp [h c hc]

theorem bare_padded {inner text : List Char} (h : Padded inner text) : bare text = bare inner := by
  obtain ⟨hleft, hright⟩ := h
  simp [bare_blanks hleft, bare_blanks hright]

theorem bare_strip (cs : List Char) : bare (strip cs) = bare cs :=
  (bare_padded (padded_strip cs)).symm

end Text
end ClientBindings
