import ClientBindings.Naming
import ClientBindings.Proofs.Table

/-!
# Naming — what the characters of a name keep

A property that a character keeps when its case is changed, and that the characters of the table of
reserved words have, stays with a name whatever is made of it.  No character becomes a line break, so
a name that stands on one line is still on one line as the name of a class.

* `Text.not_mem_upperChar`, `Text.not_mem_lowerChar` — changing the case of a character;
* `Naming.replaced_cases` — what a table does to a word;
* `Naming.Lasting` — a property that names keep;
* `Naming.not_mem_classCase` — the name of a class.
-/

namespace ClientBindings

namespace Text

/-! ## Case -/

theorem ofNat_ne_break {n : Nat} (h : n ≠ 10) : Char.ofNat n ≠ '\n' := by
  intro same
  -- A number that is no code point stands for the null character.
  by_cases valid : n.isValidChar
  · have code : (Char.ofNat n).toNat = n := by
      rw [Char.ofNat, dif_pos valid]
      rfl
    rw [same] at code
    exact h code.symm
  · have none : Char.ofNat n = '\x00' := by
      rw [Char.ofNat, dif_neg valid]
      rfl
    rw [none] at same
    exact absurd same (by decide)

/-- The images of a table of runs are its images of first code points, moved on. -/
theorem le_of_image?_eq_some {n m bound : Nat} {runs : List CaseRun}
    (above : ∀ r ∈ runs, bound ≤ r.image) (h : image? n runs = some m) : bound ≤ m := by
  induction runs with
  | nil => simp [image?] at h
  | cons r rest ih =>
    have first := above r List.mem_cons_self
    unfold image? at h
    split at h
    · simp at h
    · split at h
      · have moved := Option.some.inj h
        omega
      · exact ih (fun other hother => above other (List.mem_cons_of_mem _ hother)) h

theorem not_mem_caseImage? {expansions : List (Nat × List Nat)} {runs : List CaseRun}
    (unbroken : ∀ e ∈ expansions, 10 ∉ e.2) (above : ∀ r ∈ runs, 11 ≤ r.image) {c : Char}
    {cs : List Char} (h : caseImage? expansions runs c = some cs) : '\n' ∉ cs := by
  unfold caseImage? at h
  split at h
  · next images hlookup =>
    rw [← Option.some.inj h]
    intro inside
    rcases List.mem_map.mp inside with ⟨n, hn, hbreak⟩
    refine ofNat_ne_break ?_ hbreak
    intro isBreak
    have listed := Table.mem_of_lookup_eq_some hlookup
    exact unbroken _ listed (isBreak ▸ hn)
  · -- All runs lead past code point 10, which is the line break.
    rcases Option.map_eq_some_iff.mp h with ⟨n, hn, rfl⟩
    have large := le_of_image?_eq_some above hn
    intro inside
    exact ofNat_ne_break (by omega) (List.mem_singleton.mp inside).symm

theorem not_mem_upperChar {c : Char} (h : c ≠ '\n') : '\n' ∉ upperChar c := by
  unfold upperChar
  cases himage : caseImage? upperExpansions upperRuns c with
  | none => simpa using h.symm
  | some cs => exact not_mem_caseImage? (by decide +kernel) (by decide +kernel) himage

theorem not_mem_lowerChar {c : Char} (h : c ≠ '\n') : '\n' ∉ lowerChar c := by
  unfold lowerChar
  cases himage : caseImage? lowerExpansions lowerRuns c with
  | none => simpa using h.symm
  | some cs => exact not_mem_caseImage? (by decide +kernel) (by decide +kernel) himage

/-! ## Pieces -/

theorem exists_splitOn (sep : Char) (cs : List Char) :
    ∃ first later, cs.splitOn sep = first :: later :=
  List.exists_cons_of_ne_nil (List.splitOn_ne_nil sep cs)

theorem mem_of_mem_splitOn {sep c : Char} {cs piece : List Char} (hpiece : piece ∈ cs.splitOn sep)
    (hc : c ∈ piece) : c ∈ cs := by
  induction cs generalizing piece with
  | nil =>
    rw [List.mem_singleton.mp hpiece] at hc
    simp at hc
  | cons d rest ih =>
    rw [List.splitOn_cons_eq_if_modifyHead] at hpiece
    split at hpiece
    · rcases List.mem_cons.mp hpiece with rfl | hpiece
      · simp at hc
      · exact List.mem_cons_of_mem _ (ih hpiece hc)
    · -- The character goes to the front of the first piece of the rest.
      rcases exists_splitOn sep rest with ⟨first, others, pieces⟩
      rw [pieces, List.modifyHead_cons] at hpiece
      rw [pieces] at ih
      rcases List.mem_cons.mp hpiece with rfl | hpiece
      · rcases List.mem_cons.mp hc with rfl | hc
        · exact List.mem_cons_self
        · exact List.mem_cons_of_mem _ (ih List.mem_cons_self hc)
      · exact List.mem_cons_of_mem _ (ih (List.mem_cons_of_mem _ hpiece) hc)

end Text

namespace Naming

/-! ## Tables -/

/-- A table keeps a word that it does not name, and puts an entry in the place of any other. -/
theorem replaced_cases (table : Table String) (word : String) :
    (replaced table word = word ∧ word ∉ table.names) ∨ (word, replaced table word) ∈ table := by
  unfold replaced
  cases hentry : table.get? word with
  | none =>
    refine Or.inl ⟨rfl, ?_⟩
    intro named
    have found := Table.get?_isSome_iff.mpr named
    rw [hentry] at found
    cases found
  | some image => exact Or.inr (Table.mem_of_lookup_eq_some hentry)

theorem escapeReserved_cases (word : String) :
    (escapeReserved word = word ∧ word ∉ reservedWords.names) ∨
      (word, escapeReserved word) ∈ reservedWords :=
  replaced_cases reservedWords word

/-! ## Segments -/

variable {segment : Segment}

/-- What a segment that is no acronym gets its capital letter on. -/
def escaped (segment : Segment) : Segment :=
  (escapeReserved (.ofList (uncapitalize segment))).toList

theorem transform_of_isAcronym (acronym : isAcronym segment = true) :
    transform segment = segment := by
  simp [transform, acronym]

theorem transform_of_not_isAcronym (word : isAcronym segment = false) :
    transform segment = capitalize (escaped segment) := by
  simp [transform, word, escaped]

/-! ## Properties of all characters -/

/-- A property that stays with a character in either case, and that the reserved words do not
bring to an end. -/
structure Lasting (P : Char → Prop) : Prop where
  upper : ∀ c, P c → ∀ d ∈ Text.upperChar c, P d
  lower : ∀ c, P c → ∀ d ∈ Text.lowerChar c, P d
  entries : ∀ e ∈ reservedWords, ∀ c ∈ e.2.toList, P c

namespace Lasting

variable {P : Char → Prop} (lasting : Lasting P)

include lasting

theorem forall_mem_uncapitalize (h : ∀ c ∈ segment, P c) : ∀ c ∈ uncapitalize segment, P c := by
  cases segment with
  | nil => exact h
  | cons first rest =>
    intro c hc
    rcases List.mem_append.mp hc with image | later
    · exact lasting.lower first (h first List.mem_cons_self) c image
    · exact h c (List.mem_cons_of_mem _ later)

theorem forall_mem_capitalize (h : ∀ c ∈ segment, P c) : ∀ c ∈ capitalize segment, P c := by
  cases segment with
  | nil => exact h
  | cons first rest =>
    intro c hc
    rcases List.mem_append.mp hc with image | later
    · exact lasting.upper first (h first List.mem_cons_self) c image
    · exact h c (List.mem_cons_of_mem _ later)

theorem forall_mem_escaped (h : ∀ c ∈ segment, P c) : ∀ c ∈ escaped segment, P c := by
  unfold escaped
  rcases escapeReserved_cases (.ofList (uncapitalize segment)) with ⟨kept, _⟩ | entered
  · rw [kept, String.toList_ofList]
    exact lasting.forall_mem_uncapitalize h
  · exact lasting.entries (_, escapeReserved (.ofList (uncapitalize segment))) entered

theorem forall_mem_transform (h : ∀ c ∈ segment, P c) : ∀ c ∈ transform segment, P c := by
  cases acronym : isAcronym segment with
  | true => rwa [transform_of_isAcronym acronym]
  | false =>
    rw [transform_of_not_isAcronym acronym]
    exact lasting.forall_mem_capitalize (lasting.forall_mem_escaped h)

theorem forall_mem_classCase {name : String} (h : ∀ c ∈ name.toList, P c) :
    ∀ c ∈ (classCase name).toList, P c := by
  unfold classCase segments
  rw [String.toList_ofList]
  intro c inside
  rcases List.mem_flatten.mp inside with ⟨image, himage, hc⟩
  rcases List.mem_map.mp himage with ⟨piece, hpiece, rfl⟩
  refine lasting.forall_mem_transform ?_ c hc
  intro d hd
  exact h d (Text.mem_of_mem_splitOn hpiece hd)

end Lasting

/-! ## Names of classes -/

theorem lasting_ne_break : Lasting (· ≠ '\n') where
  upper := fun c h d hd same => Text.not_mem_upperChar h (same ▸ hd)
  lower := fun c h d hd same => Text.not_mem_lowerChar h (same ▸ hd)
  entries := by
    have unbroken : ∀ e ∈ reservedWords, '\n' ∉ e.2.toList := by decide
    exact fun e he c hc same => unbroken e he (same ▸ hc)

/-- A name on one line is on one line as the name of a class. -/
theorem not_mem_classCase {name : String} (h : '\n' ∉ name.toList) :
    '\n' ∉ (classCase name).toList := by
  intro inside
  exact lasting_ne_break.forall_mem_classCase (fun c hc same => h (same ▸ hc)) '\n' inside rfl

end Naming
end ClientBindings
