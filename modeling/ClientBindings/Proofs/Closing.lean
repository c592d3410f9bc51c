import ClientBindings.Comment
import ClientBindings.Proofs.Fallible

/-!
# Closing — where comments end

A comment ends where an asterisk and a slash meet first.  An escaped text holds no such place.  A
text that is put together has the ends of its pieces, and one more wherever two pieces meet in an
asterisk and a slash.

* `Comment.Closes` — a text in which a comment ends;
* `Comment.closes_behind`, `closes_before`, `closes_joined_iff` — texts put together of pieces that
  do not meet in an end;
* `Comment.not_closes_escape` — no comment ends in an escaped text;
* `Comment.not_closes_lines` — the lines of a text have no ends of their own;
* `Comment.Sealed`, `Comment.sealed_iff` — a comment that ends in its last line only.
-/

namespace ClientBindings
namespace Comment

/-! ## Ends of comments -/

/-- Whether a comment around a text would end in it. -/
def Closes (text : String) : Prop :=
  ['*', '/'] <:+: text.toList

theorem ends_cons {c : Char} {cs : List Char} :
    ['*', '/'] <:+: c :: cs ↔ c = '*' ∧ cs.head? = some '/' ∨ ['*', '/'] <:+: cs := by
  rw [List.infix_cons_iff, List.cons_prefix_cons]
  cases cs with
  | nil => simp
  | cons d rest => simp [List.cons_prefix_cons, eq_comm]

/-- Whether an asterisk and a slash meet. -/
def hasEnd : List Char → Bool
  | [] => false
  | c :: rest => c = '*' && rest.head? = some '/' || hasEnd rest

theorem hasEnd_iff {cs : List Char} : hasEnd cs = true ↔ ['*', '/'] <:+: cs := by
  induction cs with
  | nil => simp [hasEnd]
  | cons c rest ih => simp [hasEnd, ends_cons, ih]

instance (text : String) : Decidable (Closes text) :=
  decidable_of_iff (hasEnd text.toList = true) hasEnd_iff

/-- A text that is written out is checked letter by letter. -/
theorem not_closes_ofList {cs : List Char} (h : hasEnd cs = false) : ¬Closes (String.ofList cs) := by
  rw [Closes, String.toList_ofList, ← hasEnd_iff, h]
  exact Bool.false_ne_true

/-- An end of two pieces is one of theirs, or comes about where they meet. -/
theorem ends_append {cs ds : List Char} :
    ['*', '/'] <:+: cs ++ ds ↔
      ['*', '/'] <:+: cs ∨ cs.getLast? = some '*' ∧ ds.head? = some '/' ∨ ['*', '/'] <:+: ds := by
  induction cs with
  | nil => simp
  | cons c rest ih =>
    rw [List.cons_append, ends_cons, ends_cons, ih]
    cases rest with
    | nil => simp
    | cons d others => simp [or_assoc]

theorem closes_append {first second : String} :
    Closes (first ++ second) ↔ Closes first ∨
      first.toList.getLast? = some '*' ∧ second.toList.head? = some '/' ∨ Closes second := by
  rw [Closes, String.toList_append]
  exact ends_append

/-- An opening that neither holds an end nor starts one. -/
theorem closes_behind {opening text : String} (clean : ¬Closes opening)
    (last : opening.toList.getLast? ≠ some '*') : Closes (opening ++ text) ↔ Closes text := by
  simp [closes_append, clean, last]

/-- An ending that neither holds an end nor completes one. -/
theorem closes_before {text ending : String} (clean : ¬Closes ending)
    (head : ending.toList.head? ≠ some '/') : Closes (text ++ ending) ↔ Closes text := by
  simp [closes_append, clean, head]

theorem closes_spaced {first second : String} :
    Closes (first ++ " " ++ second) ↔ Closes first ∨ Closes second := by
  have space : ¬Closes " " := by decide
  simp [closes_append, space]

/-- Pieces with something harmless between them. -/
theorem closes_joined_iff {sep : String} (clean : ¬Closes sep) (filled : sep ≠ "")
    (head : sep.toList.head? ≠ some '/') (last : sep.toList.getLast? ≠ some '*')
    {pieces : List String} : Closes (Text.joined sep pieces) ↔ ∃ piece ∈ pieces, Closes piece := by
  induction pieces with
  | nil => simp [Text.joined, Closes]
  | cons piece rest ih =>
    cases rest with
    | nil => simp [Text.joined]
    | cons next others =>
      have joined : Text.joined sep (piece :: next :: others) =
          piece ++ (sep ++ Text.joined sep (next :: others)) := by
        rw [Text.joined, String.intercalate_cons_cons, String.append_assoc]
        rfl
      have behind : Closes (sep ++ Text.joined sep (next :: others)) ↔
          Closes (Text.joined sep (next :: others)) := closes_behind clean last
      rw [joined, closes_append, behind, ih]
      simp [head, filled]

theorem spaced_behind {opening text : String} (head : opening.toList.head? = some ' ') :
    (opening ++ text).toList.head? ≠ some '/' := by
  simp [String.toList_append, List.head?_append, head]

/-! ## Escaped texts -/

theorem head?_breakEnds (cs : List Char) : (breakEnds cs).head? = cs.head? := by
  induction cs using breakEnds.induct with
  | case1 => rfl
  | case2 rest _ => rfl
  | case3 c rest _ _ => simp [breakEnds]

theorem not_ends_breakEnds (cs : List Char) : ¬['*', '/'] <:+: breakEnds cs := by
  induction cs using breakEnds.induct with
  | case1 => simp [breakEnds]
  | case2 rest ih => simp [breakEnds, ends_cons, ih]
  | case3 c rest other ih =>
    -- A slash behind the asterisk would have made it the case before.
    have apart : ¬(c = '*' ∧ rest.head? = some '/') := by
      rintro ⟨star, slash⟩
      rcases List.head?_eq_some_iff.mp slash with ⟨others, rfl⟩
      exact other others star rfl
    rw [breakEnds.eq_3 c rest other, ends_cons, head?_breakEnds]
    exact not_or.mpr ⟨apart, ih⟩

/-- No comment ends in an escaped text. -/
theorem not_closes_escape (text : String) : ¬Closes (escape text) := by
  have broken := not_ends_breakEnds (escapeXml text).toList
  simpa [Closes, escape, breakEndsOf] using broken

theorem not_closes_described {description : Json} {text : String}
    (h : described description = .ok text) : ¬Closes text := by
  rcases Except.bind_eq_ok.mp h with ⟨given, _, hreturn⟩
  rw [← Except.ok.inj hreturn]
  exact not_closes_escape given

/-! ## Comments of lines -/

/-- A comment of some lines, the last of which ends it and is the only one to do so. -/
def Sealed (lines : List String) : Prop :=
  ¬Closes (Text.joined "\n" lines.dropLast)

instance (lines : List String) : Decidable (Sealed lines) :=
  inferInstanceAs (Decidable ¬Closes (Text.joined "\n" lines.dropLast))

/-- Nothing ends between two lines, so each line counts for itself.  A margin that ends in an
asterisk must not meet a slash. -/
theorem sealed_iff {first margin last : String} {doc : List String} (opens : ¬Closes first)
    (clean : ¬Closes margin)
    (spaced : ∀ line ∈ doc, margin.toList.getLast? = some '*' → line.toList.head? ≠ some '/') :
    Sealed ([first] ++ doc.map (margin ++ ·) ++ [last]) ↔ ∀ line ∈ doc, ¬Closes line := by
  have each : ∀ line ∈ doc, (Closes (margin ++ line) ↔ Closes line) := by
    intro line hline
    -- Only a margin that ends in an asterisk could start an end, and then no line completes it.
    have apart : ¬(margin.toList.getLast? = some '*' ∧ line.toList.head? = some '/') :=
      fun meet => spaced line hline meet.1 meet.2
    simp [closes_append, clean, apart]
  have lines : Closes (Text.joined "\n" ([first] ++ doc.map (margin ++ ·))) ↔
      ∃ line ∈ [first] ++ doc.map (margin ++ ·), Closes line :=
    closes_joined_iff (by decide) (by decide) (by decide) (by decide)
  rw [Sealed, List.dropLast_concat, lines]
  simp only [List.singleton_append, List.mem_cons, List.mem_map, exists_eq_or_imp, opens, false_or,
    not_exists, not_and, forall_exists_index, and_imp, forall_apply_eq_imp_iff₂]
  exact forall₂_congr fun line hline => not_congr (each line hline)

/-! ## Texts of several lines -/

/-- Pieces between line breaks are cut out of the text, the first one at its front. -/
theorem exists_front_linePieces (cs : List Char) :
    ∃ front others, Text.linePieces cs = front :: others ∧ front <+: cs ∧
      ∀ piece ∈ others, piece <:+: cs := by
  induction cs using Text.linePieces.induct with
  | case1 => exact ⟨[], [], rfl, List.prefix_rfl, by simp⟩
  | case2 rest ih =>
    rcases ih with ⟨front, others, pieces, start, inside⟩
    refine ⟨[], front :: others, by rw [Text.linePieces, pieces], List.nil_prefix, ?_⟩
    intro piece hpiece
    apply List.infix_cons
    apply List.infix_cons
    rcases List.mem_cons.mp hpiece with rfl | later
    · exact start.isInfix
    · exact inside piece later
  | case3 c rest other ends ih =>
    rcases ih with ⟨front, others, pieces, start, inside⟩
    refine ⟨[], front :: others, ?_, List.nil_prefix, ?_⟩
    · rw [Text.linePieces.eq_3 c rest other, if_pos ends, pieces]
    · intro piece hpiece
      apply List.infix_cons
      rcases List.mem_cons.mp hpiece with rfl | later
      · exact start.isInfix
      · exact inside piece later
  | case4 c rest other goesOn ih =>
    rcases ih with ⟨front, others, pieces, start, inside⟩
    refine ⟨c :: front, others, ?_, List.cons_prefix_cons.mpr ⟨rfl, start⟩, ?_⟩
    · rw [Text.linePieces.eq_3 c rest other, if_neg goesOn, pieces]
      rfl
    · intro piece later
      exact List.infix_cons (inside piece later)

theorem not_closes_lines {text : String} (clean : ¬Closes text) :
    ∀ line ∈ Text.lines text, ¬Closes line := by
  intro line hline closes
  rcases List.mem_map.mp hline with ⟨piece, hpiece, rfl⟩
  have cut : piece ∈ Text.linePieces text.toList := by
    split at hpiece
    · exact (List.dropLast_sublist _).subset hpiece
    · exact hpiece
  have inside : piece <:+: text.toList := by
    rcases exists_front_linePieces text.toList with ⟨front, others, pieces, start, inside⟩
    rw [pieces] at cut
    rcases List.mem_cons.mp cut with rfl | later
    · exact start.isInfix
    · exact inside piece later
  rw [Closes, String.toList_ofList] at closes
  exact clean (closes.trans inside)

end Comment
end ClientBindings
