import ClientBindings.Proofs.Acceptance

/-!
# Commas — where a text is split

Splitting carries a bracket depth from one end of the text to the other.  The depth behind a piece of
text depends only on the brackets in it, whatever their order, so it may fall below zero on the way
and come back: `a>,<b` is one part, and a comma behind it splits.  A part starts where the depth is
zero, so it is split in the same way on its own as in the text it comes from.

* `TypeText.depthBehind` — bracket depth behind a text;
* `TypeText.Undivided` — a text without commas at depth zero;
* `TypeText.Divides`, `TypeText.divides_iff` — the one way to cut a text at those commas;
* `TypeText.SplitsAtCommas`, `TypeText.splitTopLevel_splits` — what splitting does for every text.
-/

namespace ClientBindings
namespace TypeText

open Text

variable {cs : List Char}

/-! ## Depth -/

/-- Bracket depth behind a text: its opening brackets, less its closing ones. -/
def depthBehind (cs : List Char) : Int :=
  (cs.count '<' : Int) - cs.count '>'

@[simp] theorem depthBehind_nil : depthBehind [] = 0 :=
  rfl

theorem depthBehind_append (first second : List Char) :
    depthBehind (first ++ second) = depthBehind first + depthBehind second := by
  simp only [depthBehind, List.count_append]
  omega

@[simp] theorem depthBehind_cons (c : Char) (rest : List Char) :
    depthBehind (c :: rest) = bracket c + depthBehind rest := by
  have one : depthBehind [c] = bracket c := by
    by_cases opens : c = '<'
    · subst opens
      decide
    · by_cases closes : c = '>'
      · subst closes
        decide
      · simp [depthBehind, bracket, opens, closes]
  rw [← List.singleton_append, depthBehind_append, one]

theorem depthBehind_eq_zero_iff : depthBehind cs = 0 ↔ cs.count '<' = cs.count '>' := by
  unfold depthBehind
  omega

theorem depthBehind_blanks (h : Blanks cs) : depthBehind cs = 0 := by
  have filled : isBlank '<' = false ∧ isBlank '>' = false := by decide +kernel
  rw [depthBehind_eq_zero_iff, List.count_eq_zero.mpr (not_mem_of_blanks h filled.1),
    List.count_eq_zero.mpr (not_mem_of_blanks h filled.2)]

/-! ## Texts without commas at depth zero -/

/-- Whether a text that starts at a depth has no comma at depth zero. -/
def Undivided (depth : Int) (cs : List Char) : Prop :=
  ∀ front rest, cs = front ++ ',' :: rest → depth + depthBehind front ≠ 0

theorem undivided_nil (depth : Int) : Undivided depth [] := by
  intro front rest same
  simp at same

/-- The depth moves on with every character. -/
theorem undivided_cons_iff {depth : Int} {c : Char} {rest : List Char} :
    Undivided depth (c :: rest) ↔
      ¬(c = ',' ∧ depth = 0) ∧ Undivided (depth + bracket c) rest := by
  constructor
  · intro h
    constructor
    · rintro ⟨rfl, rfl⟩
      exact h [] rest rfl rfl
    · intro front behind same
      have later := h (c :: front) behind (by rw [same, List.cons_append])
      rw [depthBehind_cons] at later
      omega
  · rintro ⟨head, tail⟩ front behind same
    cases front with
    | nil =>
      rcases List.cons.inj same with ⟨comma, _⟩
      intro zero
      exact head ⟨comma, by simpa using zero⟩
    | cons d front =>
      rcases List.cons.inj same with ⟨rfl, inRest⟩
      have later := tail front behind inRest
      rw [depthBehind_cons]
      omega

/-- Blanks around a text do not change the depth of its commas. -/
theorem undivided_of_padded {depth : Int} {inner text : List Char} (h : Undivided depth text)
    (padded : Padded inner text) : Undivided depth inner := by
  obtain @⟨left, right, hleft, _⟩ := padded
  intro front rest same
  have around : left ++ inner ++ right = (left ++ front) ++ ',' :: (rest ++ right) := by simp [same]
  have outside := h (left ++ front) (rest ++ right) around
  rwa [depthBehind_append, depthBehind_blanks hleft, Int.zero_add] at outside

/-- A text has no comma at depth zero, or a first one. -/
theorem undivided_or_exists_first (depth : Int) (cs : List Char) : Undivided depth cs ∨
    ∃ first rest, cs = first ++ ',' :: rest ∧ depth + depthBehind first = 0 ∧
      Undivided depth first := by
  induction cs generalizing depth with
  | nil => exact Or.inl (undivided_nil depth)
  | cons c rest ih =>
    by_cases here : c = ',' ∧ depth = 0
    · obtain ⟨rfl, rfl⟩ := here
      exact Or.inr ⟨[], rest, rfl, rfl, undivided_nil 0⟩
    · rcases ih (depth + bracket c) with whole | ⟨first, behind, same, zero, undivided⟩
      · exact Or.inl (undivided_cons_iff.mpr ⟨here, whole⟩)
      · refine Or.inr ⟨c :: first, behind, ?_, ?_, undivided_cons_iff.mpr ⟨here, undivided⟩⟩
        · rw [same, List.cons_append]
        · rw [depthBehind_cons]
          omega

/-! ## Pieces -/

theorem topPieces_of_undivided {depth : Int} (h : Undivided depth cs) :
    topPieces depth cs = [cs] := by
  induction cs generalizing depth with
  | nil => rfl
  | cons c rest ih =>
    obtain ⟨here, later⟩ := undivided_cons_iff.mp h
    rw [topPieces, if_neg here, ih later, List.modifyHead_cons]

theorem modifyHead_append (c : Char) {pieces : List (List Char)} (filled : pieces ≠ [])
    (more : List (List Char)) :
    (pieces ++ more).modifyHead (List.cons c) = pieces.modifyHead (List.cons c) ++ more := by
  obtain ⟨first, later, rfl⟩ := List.exists_cons_of_ne_nil filled
  rfl

/-- A comma at depth zero separates the pieces of the texts around it. -/
theorem topPieces_append_comma {depth : Int} {first : List Char}
    (zero : depth + depthBehind first = 0) (second : List Char) :
    topPieces depth (first ++ ',' :: second) = topPieces depth first ++ topPieces 0 second := by
  induction first generalizing depth with
  | nil =>
    have start : depth = 0 := by simpa using zero
    simp [topPieces, start]
  | cons c rest ih =>
    rw [depthBehind_cons, ← Int.add_assoc] at zero
    have tail := ih zero
    rw [List.cons_append, topPieces, topPieces]
    by_cases here : c = ',' ∧ depth = 0
    · -- The comma changes no depth, so the rest starts at depth zero as well.
      obtain ⟨rfl, rfl⟩ := here
      have plain : (0 : Int) + bracket ',' = 0 := by decide
      rw [plain] at tail
      simp [tail]
    · rw [if_neg here, if_neg here, tail, modifyHead_append c (topPieces_ne_nil _ rest)]

/-- The ways to cut a text at its commas of depth zero. -/
inductive Divides : List Char → List (List Char) → Prop where
  | whole {cs : List Char} : Undivided 0 cs → Divides cs [cs]
  | comma {first rest : List Char} {pieces : List (List Char)} :
      Undivided 0 first → depthBehind first = 0 → Divides rest pieces →
      Divides (first ++ ',' :: rest) (first :: pieces)

theorem exists_divides (cs : List Char) : ∃ pieces, Divides cs pieces := by
  -- The rest behind a comma is no tail that a structural induction would reach.
  induction hlength : cs.length using Nat.strong_induction_on generalizing cs with
  | _ length ih =>
    rcases undivided_or_exists_first 0 cs with whole | ⟨first, rest, rfl, zero, undivided⟩
    · exact ⟨[cs], .whole whole⟩
    · have shorter : rest.length < length := by
        rw [← hlength, List.length_append, List.length_cons]
        omega
      obtain ⟨pieces, divides⟩ := ih rest.length shorter rest rfl
      exact ⟨first :: pieces, .comma undivided (by simpa using zero) divides⟩

theorem topPieces_of_divides {pieces : List (List Char)} (h : Divides cs pieces) :
    topPieces 0 cs = pieces := by
  induction h with
  | whole undivided => exact topPieces_of_undivided undivided
  | @comma first rest pieces undivided zero _ ih =>
    have start : 0 + depthBehind first = 0 := by rw [Int.zero_add, zero]
    rw [topPieces_append_comma start, topPieces_of_undivided undivided, ih, List.singleton_append]

/-- A text is cut at its commas of depth zero in one way. -/
theorem divides_iff {pieces : List (List Char)} : Divides cs pieces ↔ topPieces 0 cs = pieces := by
  constructor
  · exact topPieces_of_divides
  · rintro rfl
    obtain ⟨pieces, divides⟩ := exists_divides cs
    rwa [topPieces_of_divides divides]

theorem undivided_of_mem {pieces : List (List Char)} (h : Divides cs pieces) {piece : List Char}
    (hpiece : piece ∈ pieces) : Undivided 0 piece := by
  induction h with
  | whole undivided => rwa [List.mem_singleton.mp hpiece]
  | comma undivided _ _ ih =>
    rcases List.mem_cons.mp hpiece with rfl | later
    · exact undivided
    · exact ih later

/-! ## Parts -/

theorem splitTopLevel_of_undivided (h : Undivided 0 cs) : splitTopLevel cs = [strip cs] := by
  rw [splitTopLevel, topPieces_of_undivided h, List.map_singleton]

theorem splitTopLevel_of_mem {part : List Char} (h : part ∈ splitTopLevel cs) :
    splitTopLevel part = [part] := by
  obtain ⟨piece, hpiece, rfl⟩ := List.mem_map.mp h
  have undivided : Undivided 0 piece := undivided_of_mem (divides_iff.mpr rfl) hpiece
  have stripped : Undivided 0 (strip piece) := undivided_of_padded undivided (padded_strip piece)
  rw [splitTopLevel_of_undivided stripped, strip_strip]

/-- Splitting at the commas of depth zero, and at no others. -/
structure SplitsAtCommas (split : List Char → List (List Char)) : Prop where
  /-- The parts are the pieces between these commas, without the blanks around them. -/
  pieces : ∀ cs, ∃ pieces, Divides cs pieces ∧ split cs = pieces.map strip
  /-- A text that has none of them is one part. -/
  whole : ∀ cs, (∀ front rest, cs = front ++ ',' :: rest → depthBehind front ≠ 0) →
    split cs = [strip cs]
  /-- Behind as many opening as closing brackets, a comma separates the parts. -/
  comma : ∀ first second : List Char, first.count '<' = first.count '>' →
    split (first ++ ',' :: second) = split first ++ split second
  /-- A part is split into itself. -/
  part : ∀ cs, ∀ part ∈ split cs, split part = [part]

theorem splitTopLevel_splits : SplitsAtCommas splitTopLevel := by
  refine ⟨?_, ?_, ?_, ?_⟩
  · intro cs
    exact ⟨topPieces 0 cs, divides_iff.mpr rfl, rfl⟩
  · intro cs inside
    apply splitTopLevel_of_undivided
    intro front rest same
    rw [Int.zero_add]
    exact inside front rest same
  · intro first second balanced
    have zero : 0 + depthBehind first = 0 := by
      rw [Int.zero_add]
      exact depthBehind_eq_zero_iff.mpr balanced
    rw [splitTopLevel, topPieces_append_comma zero, List.map_append]
    rfl
  · intro cs part hpart
    exact splitTopLevel_of_mem hpart

/-- Behind a closing bracket that was not opened, a comma is inside brackets until another one
opens. -/
example : splitTopLevel "a>,<b , map<c,d>".toList = ["a>,<b".toList, "map<c,d>".toList] := by
  decide +kernel

end TypeText
end ClientBindings
