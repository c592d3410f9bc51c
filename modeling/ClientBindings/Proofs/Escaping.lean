import ClientBindings.Proofs.Closing
import ClientBindings.Proofs.Entries
import ClientBindings.Proofs.Naming

/-!
# Escaping — what escaping keeps of a text

Markup characters are replaced one after the other, the ampersand first, so that each character ends
up as one entity or as itself and can be read back.  The ends of comments are broken afterwards.  They
do not overlap, so a text is cut at them in one way only, and none comes about where a cut is closed
again with a space in it.  The description of a constant is broken in the same way, line by line, and
its later lines stand behind a margin.

* `Comment.entity`, `Comment.unescape` — what a character becomes, and how it is read back;
* `Comment.Breaks`, `Comment.breaks_iff` — a text whose ends of comments are broken;
* `Comment.Margined`, `Comment.margined_constantDescription` — the description of a constant;
* `Comment.Guards`, `Comment.guards` — what escaping does for every text.
-/

namespace ClientBindings

/-! ## Lines -/

namespace Text

variable {sep : Char} {cs : List Char}

/-- A character that is no separator belongs to the first piece. -/
theorem splitOn_cons {c : Char} (other : c ≠ sep) {first : List Char} {later : List (List Char)}
    (pieces : cs.splitOn sep = first :: later) :
    (c :: cs).splitOn sep = (c :: first) :: later := by
  simp [List.splitOn_cons_eq_if_modifyHead, other, pieces]

/-- So does everything in front of the first separator. -/
theorem splitOn_behind {front : List Char} (plain : sep ∉ front) {first : List Char}
    {later : List (List Char)} (pieces : cs.splitOn sep = first :: later) :
    (front ++ cs).splitOn sep = (front ++ first) :: later := by
  induction front with
  | nil => exact pieces
  | cons c rest ih =>
    have parts : sep ≠ c ∧ sep ∉ rest := by simpa using plain
    exact splitOn_cons parts.1.symm (ih parts.2)

/-- The first piece is what a text starts with. -/
theorem head?_of_splitOn {first : List Char} {later : List (List Char)}
    (pieces : cs.splitOn sep = first :: later) {c : Char} (head : first.head? = some c) :
    cs.head? = some c := by
  cases cs with
  | nil =>
    have empty : first = [] := (List.cons.inj pieces).1.symm
    simp [empty] at head
  | cons d rest =>
    by_cases same : d = sep
    · have empty : [] = first := by
        rw [List.splitOn_cons_eq_if_modifyHead, if_pos (beq_iff_eq.mpr same)] at pieces
        exact (List.cons.inj pieces).1
      simp [← empty] at head
    · rcases exists_splitOn sep rest with ⟨front, others, tail⟩
      rw [splitOn_cons same tail] at pieces
      rw [← (List.cons.inj pieces).1] at head
      simpa using head

/-- Separators that are replaced by themselves and something behind them still separate the same
pieces. -/
theorem splitOn_flatMap {margin : List Char} (plain : sep ∉ margin) {first : List Char}
    {later : List (List Char)} (pieces : cs.splitOn sep = first :: later) :
    (cs.flatMap fun c => if c = sep then sep :: margin else [c]).splitOn sep =
      first :: later.map (margin ++ ·) := by
  induction cs generalizing first later with
  | nil =>
    have empty : [] = first ∧ [] = later := List.cons.inj pieces
    simp [← empty.1, ← empty.2]
  | cons c rest ih =>
    rcases exists_splitOn sep rest with ⟨front, others, tail⟩
    have replaced := ih tail
    by_cases same : c = sep
    · subst same
      have cut : [] = first ∧ front :: others = later := by
        simpa [List.splitOn_cons_eq_if_modifyHead, tail] using pieces
      rw [← cut.1, ← cut.2, List.flatMap_cons, if_pos rfl, List.cons_append]
      simp [List.splitOn_cons_eq_if_modifyHead, splitOn_behind plain replaced]
    · rw [splitOn_cons same tail] at pieces
      have kept : c :: front = first ∧ others = later := List.cons.inj pieces
      rw [← kept.1, ← kept.2, List.flatMap_cons, if_neg same]
      exact splitOn_cons same replaced

/-- A text whose separators are replaced is its pieces with the replacement between them. -/
theorem intercalate_splitOn (sep : Char) (image cs : List Char) :
    image.intercalate (cs.splitOn sep) = cs.flatMap fun c => if c = sep then image else [c] := by
  induction cs with
  | nil => rfl
  | cons c rest ih =>
    rcases exists_splitOn sep rest with ⟨first, later, tail⟩
    rw [List.flatMap_cons, ← ih]
    by_cases same : c = sep
    · simp [List.splitOn_cons_eq_if_modifyHead, same, tail, List.intercalate_cons_cons]
    · rw [splitOn_cons same tail, tail, if_neg same]
      cases later <;> simp [List.intercalate]

end Text

namespace Comment

/-! ## Entities -/

/-- What a character becomes: an entity if it is markup, and itself if it is not. -/
def entity (c : Char) : List Char :=
  if c = '&' then "&amp;".toList
  else if c = '<' then "&lt;".toList
  else if c = '>' then "&gt;".toList
  else [c]

/-- A text with its entities read back. -/
def unescape : List Char → List Char
  | '&' :: 'a' :: 'm' :: 'p' :: ';' :: rest => '&' :: unescape rest
  | '&' :: 'l' :: 't' :: ';' :: rest => '<' :: unescape rest
  | '&' :: 'g' :: 't' :: ';' :: rest => '>' :: unescape rest
  | c :: rest => c :: unescape rest
  | [] => []

theorem entity_of_plain {c : Char} (ampersand : c ≠ '&') (less : c ≠ '<') (greater : c ≠ '>') :
    entity c = [c] := by
  simp [entity, ampersand, less, greater]

/-- The three replacements come to one for each character: what stands for an ampersand holds no
markup that a later replacement could meet. -/
theorem toList_escapeXml (text : String) : (escapeXml text).toList = text.toList.flatMap entity := by
  simp only [escapeXml, Text.substitute, String.toList_ofList, List.flatMap_assoc]
  congr 1
  funext c
  by_cases ampersand : c = '&'
  · subst ampersand
    decide
  · by_cases less : c = '<'
    · subst less
      decide
    · simp [entity, ampersand, less]

theorem unescape_cons {c : Char} (plain : c ≠ '&') (rest : List Char) :
    unescape (c :: rest) = c :: unescape rest := by
  apply unescape.eq_4 <;> simp [plain]

/-- Every text can be read back from its entities. -/
theorem unescape_entities (cs : List Char) : unescape (cs.flatMap entity) = cs := by
  induction cs with
  | nil => rfl
  | cons c rest ih =>
    rw [List.flatMap_cons]
    by_cases ampersand : c = '&'
    · subst ampersand
      exact congrArg (List.cons '&') ih
    · by_cases less : c = '<'
      · subst less
        exact congrArg (List.cons '<') ih
      · by_cases greater : c = '>'
        · subst greater
          exact congrArg (List.cons '>') ih
        · rw [entity_of_plain ampersand less greater, List.singleton_append,
            unescape_cons ampersand, ih]

theorem escapeXml_injective {text other : String} (h : escapeXml other = escapeXml text) :
    other = text := by
  have entities : other.toList.flatMap entity = text.toList.flatMap entity := by
    rw [← toList_escapeXml, ← toList_escapeXml, h]
  have letters : other.toList = text.toList := by
    rw [← unescape_entities other.toList, entities, unescape_entities]
  exact String.toList_inj.mp letters

/-- No entity holds a bracket. -/
theorem not_mem_entity {bracket : Char} (h : bracket = '<' ∨ bracket = '>') (c : Char) :
    bracket ∉ entity c := by
  unfold entity
  split
  · rcases h with rfl | rfl <;> decide
  · split
    · rcases h with rfl | rfl <;> decide
    · split
      · rcases h with rfl | rfl <;> decide
      · next less greater =>
        rw [List.mem_singleton]
        rintro rfl
        rcases h with same | same
        · exact less same
        · exact greater same

/-- Breaking ends adds spaces only. -/
theorem mem_of_mem_breakEnds {c : Char} {cs : List Char} (h : c ∈ breakEnds cs) :
    c = ' ' ∨ c ∈ cs := by
  induction cs using breakEnds.induct with
  | case1 => exact Or.inr h
  | case2 rest ih =>
    simp only [breakEnds, List.mem_cons] at h ⊢
    rcases h with star | space | slash | later
    · exact Or.inr (Or.inl star)
    · exact Or.inl space
    · exact Or.inr (Or.inr (Or.inl slash))
    · exact (ih later).imp_right fun inside => Or.inr (Or.inr inside)
  | case3 d rest other ih =>
    rw [breakEnds.eq_3 d rest other] at h
    rcases List.mem_cons.mp h with same | later
    · exact Or.inr (List.mem_cons.mpr (Or.inl same))
    · exact (ih later).imp_right (List.mem_cons_of_mem _)

theorem not_mem_escape {bracket : Char} (h : bracket = '<' ∨ bracket = '>') (text : String) :
    bracket ∉ (escape text).toList := by
  intro inside
  simp only [escape, breakEndsOf, String.toList_ofList] at inside
  rcases mem_of_mem_breakEnds inside with space | there
  · rcases h with rfl | rfl <;> simp at space
  · rw [toList_escapeXml] at there
    rcases List.mem_flatMap.mp there with ⟨c, _, image⟩
    exact not_mem_entity h c image

/-! ## Broken ends -/

/-- A text with every end of a comment in it broken by a space: the pieces between the ends stay as
they are. -/
def Breaks (text broken : List Char) : Prop :=
  ∃ pieces : List (List Char), (∀ piece ∈ pieces, ¬['*', '/'] <:+: piece) ∧
    text = ['*', '/'].intercalate pieces ∧ broken = ['*', ' ', '/'].intercalate pieces

theorem breakEnds_cons {c : Char} {rest : List Char} (apart : ¬(c = '*' ∧ rest.head? = some '/')) :
    breakEnds (c :: rest) = c :: breakEnds rest := by
  apply breakEnds.eq_3
  rintro others rfl rfl
  exact apart ⟨rfl, rfl⟩

/-- The first end of a comment is found behind the first piece, whatever the piece ends in. -/
theorem breakEnds_piece {piece : List Char} (clean : ¬['*', '/'] <:+: piece) (rest : List Char) :
    breakEnds (piece ++ '*' :: '/' :: rest) = piece ++ '*' :: ' ' :: '/' :: breakEnds rest := by
  induction piece with
  | nil => rfl
  | cons c later ih =>
    rw [ends_cons, not_or] at clean
    have apart : ¬(c = '*' ∧ (later ++ '*' :: '/' :: rest).head? = some '/') := by
      cases later with
      | nil => simp
      | cons d others => simpa using clean.1
    rw [List.cons_append, breakEnds_cons apart, ih clean.2, List.cons_append]

theorem breakEnds_of_clean {cs : List Char} (clean : ¬['*', '/'] <:+: cs) : breakEnds cs = cs := by
  induction cs with
  | nil => rfl
  | cons c rest ih =>
    rw [ends_cons, not_or] at clean
    rw [breakEnds_cons clean.1, ih clean.2]

theorem breakEnds_intercalate {pieces : List (List Char)}
    (clean : ∀ piece ∈ pieces, ¬['*', '/'] <:+: piece) :
    breakEnds (['*', '/'].intercalate pieces) = ['*', ' ', '/'].intercalate pieces := by
  induction pieces with
  | nil => rfl
  | cons piece rest ih =>
    have first : ¬['*', '/'] <:+: piece := clean piece List.mem_cons_self
    have others := ih fun later hlater => clean later (List.mem_cons_of_mem _ hlater)
    cases rest with
    | nil => simpa using breakEnds_of_clean first
    | cons next more =>
      calc breakEnds (['*', '/'].intercalate (piece :: next :: more))
          = breakEnds (piece ++ '*' :: '/' :: ['*', '/'].intercalate (next :: more)) := by
            rw [List.intercalate_cons_cons, List.append_assoc]
            rfl
        _ = piece ++ '*' :: ' ' :: '/' :: ['*', ' ', '/'].intercalate (next :: more) := by
            rw [breakEnds_piece first, others]
        _ = ['*', ' ', '/'].intercalate (piece :: next :: more) := by
            rw [List.intercalate_cons_cons, List.append_assoc]
            rfl

/-- Every text consists of pieces with ends of comments between them. -/
theorem exists_pieces (cs : List Char) :
    ∃ first later, (∀ piece ∈ first :: later, ¬['*', '/'] <:+: piece) ∧
      cs = ['*', '/'].intercalate (first :: later) := by
  induction cs using breakEnds.induct with
  | case1 => exact ⟨[], [], by simp, by simp⟩
  | case2 rest ih =>
    rcases ih with ⟨first, later, clean, whole⟩
    refine ⟨[], first :: later, ?_, by simp [List.intercalate_cons_cons, ← whole]⟩
    intro piece hpiece
    rcases List.mem_cons.mp hpiece with rfl | there
    · simp
    · exact clean piece there
  | case3 c rest other ih =>
    rcases ih with ⟨first, later, clean, whole⟩
    have longer : ['*', '/'].intercalate ((c :: first) :: later) = c :: rest := by
      rw [whole]
      cases later <;> simp [List.intercalate]
    -- The character ends no piece, or it would have started the end of a comment.
    have apart : ¬(c = '*' ∧ first.head? = some '/') := by
      rintro ⟨star, slash⟩
      rcases List.head?_eq_some_iff.mp slash with ⟨tail, rfl⟩
      refine other (['*', '/'].intercalate (tail :: later)) star ?_
      rw [whole]
      cases later <;> simp [List.intercalate]
    refine ⟨c :: first, later, ?_, longer.symm⟩
    intro piece hpiece
    rcases List.mem_cons.mp hpiece with rfl | there
    · rw [ends_cons]
      exact not_or.mpr ⟨apart, clean first List.mem_cons_self⟩
    · exact clean piece (List.mem_cons_of_mem _ there)

/-- There is one way to break the ends of comments in a text. -/
theorem breaks_iff {text broken : List Char} : Breaks text broken ↔ broken = breakEnds text := by
  constructor
  · rintro ⟨pieces, clean, rfl, rfl⟩
    exact (breakEnds_intercalate clean).symm
  · rintro rfl
    rcases exists_pieces text with ⟨first, later, clean, whole⟩
    refine ⟨first :: later, clean, whole, ?_⟩
    rw [← breakEnds_intercalate clean, ← whole]

/-! ## Descriptions of constants -/

/-- What the later lines of a description stand behind. -/
def margin : List Char :=
  List.replicate 9 ' ' ++ ['*', ' ']

/-- The description of a constant: no comment ends in it, and it has the lines of the text, with the
ends of comments in them broken, the later ones behind a margin. -/
structure Margined (text shown : String) : Prop where
  sealed : ¬Closes shown
  lines : ∃ first later, text.toList.splitOn '\n' = first :: later ∧
    ∃ opening others, shown.toList.splitOn '\n' = opening :: others ∧ Breaks first opening ∧
      List.Forall₂ (fun line other => ∃ broken, Breaks line broken ∧ other = margin ++ broken)
        later others

/-- No end of a comment reaches over a line break. -/
theorem splitOn_breakEnds (cs : List Char) :
    (breakEnds cs).splitOn '\n' = (cs.splitOn '\n').map breakEnds := by
  induction cs using breakEnds.induct with
  | case1 => rfl
  | case2 rest ih =>
    rcases Text.exists_splitOn '\n' rest with ⟨first, later, pieces⟩
    rw [pieces, List.map_cons] at ih
    have front : ∀ {cs line : List Char} {others : List (List Char)},
        cs.splitOn '\n' = line :: others → ∀ c : Char, c ≠ '\n' →
          (c :: cs).splitOn '\n' = (c :: line) :: others :=
      fun cut _ other => Text.splitOn_cons other cut
    rw [breakEnds, front (front (front ih '/' (by decide)) ' ' (by decide)) '*' (by decide),
      front (front pieces '/' (by decide)) '*' (by decide)]
    rfl
  | case3 c rest other ih =>
    rcases Text.exists_splitOn '\n' rest with ⟨first, later, pieces⟩
    rw [pieces, List.map_cons] at ih
    rw [breakEnds.eq_3 c rest other]
    by_cases same : c = '\n'
    · simp [List.splitOn_cons_eq_if_modifyHead, same, ih, pieces, breakEnds]
    · have apart : ¬(c = '*' ∧ first.head? = some '/') := by
        rintro ⟨star, slash⟩
        have start := Text.head?_of_splitOn pieces slash
        rcases List.head?_eq_some_iff.mp start with ⟨others, rfl⟩
        exact other others star rfl
      rw [Text.splitOn_cons same ih, Text.splitOn_cons same pieces, List.map_cons,
        breakEnds_cons apart]

theorem toList_constantDescription (text : String) :
    (Shared.constantDescription text).toList =
      (breakEnds text.toList).flatMap fun c => if c = '\n' then '\n' :: margin else [c] := by
  simp only [Shared.constantDescription, breakEndsOf, Text.substitute, String.toList_ofList]
  rfl

/-- The description of a constant is its broken lines with breaks and margins between them. -/
theorem constantDescription_eq_joined (text : String) :
    Shared.constantDescription text =
      Text.joined "\n         * "
        (((breakEnds text.toList).splitOn '\n').map String.ofList) := by
  have image : "\n         * ".toList = '\n' :: margin := by decide
  have letters : String.toList ∘ String.ofList = id := by
    funext cs
    exact String.toList_ofList
  apply String.toList_inj.mp
  calc (Shared.constantDescription text).toList
      = (breakEnds text.toList).flatMap fun c => if c = '\n' then '\n' :: margin else [c] :=
        toList_constantDescription text
    _ = ('\n' :: margin).intercalate ((breakEnds text.toList).splitOn '\n') :=
        (Text.intercalate_splitOn '\n' _ _).symm
    _ = _ := by rw [Text.joined, String.toList_intercalate, image, List.map_map, letters, List.map_id]

theorem margined_constantDescription (text : String) :
    Margined text (Shared.constantDescription text) := by
  constructor
  · -- The margin neither ends a comment nor meets a line in an end of one.
    rw [constantDescription_eq_joined,
      closes_joined_iff (by decide) (by decide) (by decide) (by decide)]
    rintro ⟨line, hline, closes⟩
    rw [splitOn_breakEnds, List.map_map] at hline
    rcases List.mem_map.mp hline with ⟨given, _, rfl⟩
    exact not_ends_breakEnds given (by simpa [Closes] using closes)
  · rcases Text.exists_splitOn '\n' text.toList with ⟨first, later, pieces⟩
    have broken : (breakEnds text.toList).splitOn '\n' =
        breakEnds first :: later.map breakEnds := by
      rw [splitOn_breakEnds, pieces, List.map_cons]
    refine ⟨first, later, pieces, breakEnds first, (later.map breakEnds).map (margin ++ ·), ?_,
      breaks_iff.mpr rfl, ?_⟩
    · rw [toList_constantDescription]
      exact Text.splitOn_flatMap (by decide) broken
    · rw [List.map_map, List.forall₂_map_right_iff]
      exact List.forall₂_same.mpr fun line _ => ⟨breakEnds line, breaks_iff.mpr rfl, rfl⟩

/-! ## Escaping -/

/-- What escaping does for a text. -/
structure Guards (text : String) : Prop where
  /-- Each character becomes an entity or stays. -/
  encoded : escapeXml text = .ofList (text.toList.flatMap entity)
  restored : .ofList (unescape (escapeXml text).toList) = text
  apart : ∀ other, other ≠ text → escapeXml other ≠ escapeXml text
  /-- An escaped text opens no markup, and no comment ends in it. -/
  plain : '<' ∉ (escape text).toList ∧ '>' ∉ (escape text).toList
  sealed : ¬Closes (escape text)
  /-- Where the text describes a value of an enumeration, it has a margin in the entry. -/
  described : ∀ wire, ∃ constant,
    Shared.enumConstant ⟨.text wire, .text text⟩ = .ok constant ∧ Margined text constant.description
  margined : ∀ snapshot entries, Shared.enumEntries snapshot = .ok entries →
    List.Forall₂ (fun enum (entry : Shared.EnumEntry) =>
        List.Forall₂ (fun v (constant : Shared.EnumConstant) =>
          v.description = .text text → Margined text constant.description) enum.2 entry.values)
      (Shared.sortedBy Prod.fst snapshot.enums) entries

/-- The values of an enumeration are described one by one. -/
theorem margined_of_enumEntries {text : String} {snapshot : Snapshot}
    {entries : List Shared.EnumEntry} (made : Shared.enumEntries snapshot = .ok entries) :
    List.Forall₂ (fun enum (entry : Shared.EnumEntry) =>
        List.Forall₂ (fun v (constant : Shared.EnumConstant) =>
          v.description = .text text → Margined text constant.description) enum.2 entry.values)
      (Shared.sortedBy Prod.fst snapshot.enums) entries := by
  refine (Except.mapM_eq_ok.mp made).imp ?_
  intro enum entry declared
  rcases Except.bind_eq_ok.mp declared with ⟨constants, each, hentry⟩
  cases hentry
  refine (Except.mapM_eq_ok.mp each).imp ?_
  intro v constant written described
  rcases Except.bind_eq_ok.mp written with ⟨description, given, written⟩
  rcases Except.bind_eq_ok.mp written with ⟨wire, _, hconstant⟩
  cases hconstant
  rw [described] at given
  cases given
  exact margined_constantDescription text

theorem guards (text : String) : Guards text := by
  have letters := toList_escapeXml text
  refine ⟨?_, ?_, ?_, ?_, not_closes_escape text, ?_, ?_⟩
  · rw [← letters, String.ofList_toList]
  · rw [letters, unescape_entities, String.ofList_toList]
  · intro other different same
    exact different (escapeXml_injective same)
  · exact ⟨not_mem_escape (Or.inl rfl) text, not_mem_escape (Or.inr rfl) text⟩
  · intro wire
    exact ⟨⟨wire, Naming.constantCase wire, Shared.constantDescription text⟩, rfl,
      margined_constantDescription text⟩
  · intro snapshot entries made
    exact margined_of_enumEntries made

/-- Ends of comments that lie next to slashes and asterisks are broken, and so is one behind a line
break; a break between an asterisk and a slash is none. -/
example : Shared.constantDescription "**//\n*/*\n/" =
    "** //\n         * * /*\n         * /" := by
  decide

end Comment
end ClientBindings
