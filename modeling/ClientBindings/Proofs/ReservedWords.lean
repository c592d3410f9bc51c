import ClientBindings.Proofs.Naming

/-!
# Reserved words — no name in camel case is one of them

The table of reserved words is asked about each segment of a name before the segment gets its capital
letter, and the table of keywords about the whole name.  A segment behind the first one brings a
character along that is its own upper case, and so does an acronym; a word of small letters has none.
What is left is a name of one segment, whose first letter is made small again.  In ASCII that gives
the letter back that the table was asked about.  Elsewhere it need not: the dotless `ı` and `i` have
the same capital letter.

* `Text.Ascii`, `Text.Small` — texts of ASCII characters, and of small letters;
* `Naming.uncapitalize_escaped_ne` — what the table leaves of a segment;
* `Naming.transform_eq_nil_of_small`, `Naming.camelHead_transform_ne` — segments of a name;
* `Naming.camelCase_not_mem_keywords`, `Naming.camelCase_not_mem_words` — whole names.
-/

namespace ClientBindings

/-! ## Case of ASCII characters -/

namespace Text

variable {c : Char}

/-- A text of ASCII characters. -/
def Ascii (cs : List Char) : Prop :=
  ∀ c ∈ cs, c.toNat < 128

instance (cs : List Char) : Decidable (Ascii cs) :=
  decidable_of_iff (cs.all fun c => c.toNat < 128) (by simp [Ascii])

/-- A text of characters that are not their own upper case. -/
def Small (cs : List Char) : Prop :=
  ∀ c ∈ cs, upperChar c ≠ [c]

instance (cs : List Char) : Decidable (Small cs) :=
  decidable_of_iff (cs.all fun c => upperChar c ≠ [c]) (by simp [Small])

/-- What is to be shown of the characters of ASCII can be tried out. -/
theorem forall_ascii {P : Char → Prop} (each : ∀ n < 128, P (Char.ofNat n)) (ascii : c.toNat < 128) :
    P c := by
  have here := each c.toNat ascii
  rwa [Char.ofNat_toNat] at here

theorem upperChar_of_ascii (ascii : c.toNat < 128) : upperChar c = [c.toUpper] :=
  forall_ascii (P := fun c => upperChar c = [c.toUpper]) (by decide +kernel) ascii

/-- The capital form of an ASCII character is one character, and both have one small form. -/
theorem exists_capital (ascii : c.toNat < 128) :
    ∃ d, upperChar c = [d] ∧ d.toNat < 128 ∧ upperChar d = [d] ∧ lowerChar d = lowerChar c := by
  obtain ⟨inside, own, same⟩ : c.toUpper.toNat < 128 ∧ c.toUpper.toUpper = c.toUpper ∧
      lowerChar c.toUpper = lowerChar c :=
    forall_ascii (P := fun c => c.toUpper.toNat < 128 ∧ c.toUpper.toUpper = c.toUpper ∧
      lowerChar c.toUpper = lowerChar c) (by decide +kernel) ascii
  refine ⟨c.toUpper, upperChar_of_ascii ascii, inside, ?_, same⟩
  rw [upperChar_of_ascii inside, own]

theorem exists_small (ascii : c.toNat < 128) :
    ∃ d, lowerChar c = [d] ∧ d.toNat < 128 ∧ lowerChar d = lowerChar c :=
  ⟨c.toLower, forall_ascii (P := fun c => lowerChar c = [c.toLower] ∧ c.toLower.toNat < 128 ∧
    lowerChar c.toLower = lowerChar c) (by decide +kernel) ascii⟩

end Text

namespace Naming

open Text (Ascii Small)

/-! ## Tables -/

/-- Where no entry is a word of the table, none comes out of it. -/
theorem replaced_not_mem_names {table : Table String} (fresh : ∀ e ∈ table, e.2 ∉ table.names)
    (word : String) : replaced table word ∉ table.names := by
  rcases replaced_cases table word with ⟨kept, unnamed⟩ | entered
  · rwa [kept]
  · exact fresh _ entered

/-- A word that is no entry of a table can come out of it only as itself. -/
theorem eq_of_replaced_eq {table : Table String} {word image : String}
    (h : replaced table word = image) (other : ∀ e ∈ table, e.2 ≠ image) : word = image := by
  rcases replaced_cases table word with ⟨kept, _⟩ | entered
  · rw [← kept, h]
  · exact absurd h (other _ entered)

/-! ## Segments -/

variable {segment : Segment}

theorem uncapitalize_capitalize (ascii : Ascii segment) :
    uncapitalize (capitalize segment) = uncapitalize segment := by
  cases segment with
  | nil => rfl
  | cons c rest =>
    obtain ⟨d, capital, _, _, same⟩ := Text.exists_capital (ascii c List.mem_cons_self)
    calc uncapitalize (capitalize (c :: rest))
        = uncapitalize (d :: rest) := by rw [capitalize, capital, List.singleton_append]
      _ = uncapitalize (c :: rest) := by rw [uncapitalize, same, uncapitalize]

theorem uncapitalize_uncapitalize (ascii : Ascii segment) :
    uncapitalize (uncapitalize segment) = uncapitalize segment := by
  cases segment with
  | nil => rfl
  | cons c rest =>
    obtain ⟨d, small, _, same⟩ := Text.exists_small (ascii c List.mem_cons_self)
    have image : uncapitalize (c :: rest) = d :: rest := by
      rw [uncapitalize, small, List.singleton_append]
    calc uncapitalize (uncapitalize (c :: rest))
        = uncapitalize (d :: rest) := by rw [image]
      _ = uncapitalize (c :: rest) := by rw [uncapitalize, same, uncapitalize]

theorem lasting_ascii : Lasting (·.toNat < 128) where
  upper := by
    intro c ascii e he
    obtain ⟨d, capital, inside, _⟩ := Text.exists_capital ascii
    rw [capital] at he
    rwa [List.mem_singleton.mp he]
  lower := by
    intro c ascii e he
    obtain ⟨d, small, inside, _⟩ := Text.exists_small ascii
    rw [small] at he
    rwa [List.mem_singleton.mp he]
  entries := by
    have letters : ∀ e ∈ reservedWords, Ascii e.2.toList := by decide
    exact letters

theorem isAcronym_eq_false_of_small (small : Small segment) :
    isAcronym segment = false := by
  match segment with
  | [] => rfl
  | [_] => rfl
  | first :: second :: rest =>
    have other : Text.upperChar second ≠ [second] := small second (by simp)
    simpa [isAcronym] using other

/-- A segment inside a name is empty or has a character that is its own upper case. -/
theorem transform_eq_nil_of_small (ascii : Ascii segment)
    (small : Small (transform segment)) : transform segment = [] := by
  cases acronym : isAcronym segment with
  | true =>
    -- An acronym stays, and its second character is such a one.
    rw [transform_of_isAcronym acronym] at small
    rw [isAcronym_eq_false_of_small small] at acronym
    cases acronym
  | false =>
    -- Any other segment starts with a capital form.
    rw [transform_of_not_isAcronym acronym] at small ⊢
    have letters : Ascii (escaped segment) := lasting_ascii.forall_mem_escaped ascii
    cases hescaped : escaped segment with
    | nil => rfl
    | cons c rest =>
      rw [hescaped] at small letters
      obtain ⟨d, capital, _, own, _⟩ := Text.exists_capital (letters c List.mem_cons_self)
      rw [capitalize, capital, List.singleton_append] at small
      exact absurd own (small d List.mem_cons_self)

/-- The table leaves no reserved word, nor a word that a small first letter makes one. -/
theorem uncapitalize_escaped_ne (ascii : Ascii segment) {word : String}
    (reserved : word ∈ reservedWords.names) : uncapitalize (escaped segment) ≠ word.toList := by
  unfold escaped
  intro same
  rcases escapeReserved_cases (.ofList (uncapitalize segment)) with ⟨kept, unnamed⟩ | entered
  · -- The table was asked about this very word.
    rw [kept, String.toList_ofList, uncapitalize_uncapitalize ascii] at same
    rw [same, String.ofList_toList] at unnamed
    exact unnamed reserved
  · have entries : ∀ e ∈ reservedWords,
        String.ofList (uncapitalize e.2.toList) ∉ reservedWords.names := by decide +kernel
    have fresh := entries _ entered
    simp only [same, String.ofList_toList] at fresh
    exact fresh reserved

theorem camelHead_transform_cases (segment : Segment) :
    isAcronym (camelHead (transform segment)) = true ∨
      camelHead (transform segment) = uncapitalize (capitalize (escaped segment)) := by
  cases turned : isAcronym (transform segment) with
  | true => exact Or.inl (by simp [camelHead, turned])
  | false =>
    -- A segment that is an acronym would still be one.
    have plain : isAcronym segment = false := by
      cases acronym : isAcronym segment with
      | false => rfl
      | true => rwa [transform_of_isAcronym acronym, acronym] at turned
    refine Or.inr ?_
    rw [camelHead, turned, if_neg Bool.false_ne_true, transform_of_not_isAcronym plain]

/-- The head of a name is no reserved word of small letters. -/
theorem camelHead_transform_ne (ascii : Ascii segment) {word : String}
    (reserved : word ∈ reservedWords.names) (small : Small word.toList) :
    camelHead (transform segment) ≠ word.toList := by
  intro same
  rcases camelHead_transform_cases segment with acronym | turned
  · rw [same, isAcronym_eq_false_of_small small] at acronym
    cases acronym
  · rw [turned, uncapitalize_capitalize (lasting_ascii.forall_mem_escaped ascii)] at same
    exact uncapitalize_escaped_ne ascii reserved same

/-! ## Names -/

theorem exists_camelCase_eq (name : String) : ∃ first later,
    name.toList.splitOn '_' = first :: later ∧
      camelCase name = replaced keywords
        (.ofList (camelHead (transform first) ++ (later.map transform).flatten)) := by
  obtain ⟨first, later, pieces⟩ := Text.exists_splitOn '_' name.toList
  refine ⟨first, later, pieces, ?_⟩
  rw [camelCase, segments, pieces, List.map_cons]

/-- No name in camel case is a keyword, whatever its characters are. -/
theorem camelCase_not_mem_keywords (name : String) : camelCase name ∉ keywords.names := by
  obtain ⟨first, later, _, whole⟩ := exists_camelCase_eq name
  rw [whole]
  exact replaced_not_mem_names (by decide) _

/-- Nothing of a word of small letters comes from behind the head. -/
theorem flatten_transform_eq_nil {pieces : List Segment}
    (ascii : ∀ piece ∈ pieces, Ascii piece) (small : Small (pieces.map transform).flatten) :
    (pieces.map transform).flatten = [] := by
  apply List.flatten_eq_nil_iff.mpr
  intro image himage
  obtain ⟨piece, hpiece, rfl⟩ := List.mem_map.mp himage
  apply transform_eq_nil_of_small (ascii piece hpiece)
  intro c hc
  exact small c (List.mem_flatten.mpr ⟨_, himage, hc⟩)

/-- Nor is it a reserved word of small letters, if its characters are ASCII. -/
theorem camelCase_ne_of_small {name word : String} (ascii : Ascii name.toList)
    (reserved : word ∈ reservedWords.names) (small : Small word.toList) :
    camelCase name ≠ word := by
  obtain ⟨first, later, pieces, whole⟩ := exists_camelCase_eq name
  have letters : ∀ piece ∈ first :: later, Ascii piece := by
    rw [← pieces]
    intro piece hpiece c hc
    exact ascii c (Text.mem_of_mem_splitOn hpiece hc)
  intro same
  have joined : .ofList (camelHead (transform first) ++ (later.map transform).flatten) = word := by
    refine eq_of_replaced_eq (whole.symm.trans same) ?_
    -- What stands for a keyword is no reserved word.
    have entries : ∀ e ∈ keywords, e.2 ∉ reservedWords.names := by decide
    intro e he is
    exact entries e he (is ▸ reserved)
  have single : (later.map transform).flatten = [] := by
    apply flatten_transform_eq_nil fun piece hpiece => letters piece (List.mem_cons_of_mem _ hpiece)
    intro c hc
    apply small
    rw [← joined, String.toList_ofList]
    exact List.mem_append_right _ hc
  rw [single, List.append_nil] at joined
  apply camelHead_transform_ne (letters first List.mem_cons_self) reserved small
  rw [← joined, String.toList_ofList]

/-- A name of ASCII characters becomes none of these words, however its letters, digits and
underscores are arranged. -/
theorem camelCase_not_mem_words {name : String} (ascii : Ascii name.toList) :
    camelCase name ∉ ["class", "clone", "interface", "import", "public"] := by
  have reserved : ∀ word ∈ ["class", "clone", "interface", "import"],
      word ∈ reservedWords.names ∧ Small word.toList := by decide +kernel
  have keyword : "public" ∈ keywords.names := by decide
  intro inside
  have parts : camelCase name ∈ ["class", "clone", "interface", "import"] ++ ["public"] := inside
  rcases List.mem_append.mp parts with word | last
  · obtain ⟨named, small⟩ := reserved _ word
    exact camelCase_ne_of_small ascii named small rfl
  · apply camelCase_not_mem_keywords name
    rwa [List.mem_singleton.mp last]

/-- Neither a capital letter nor underscores behind it hide a word from the table. -/
theorem camelCase_not_mem_words_trailing :
    Ascii "Interface__".toList ∧ camelCase "Interface__" = "iface" ∧
      camelCase "Interface__" ∉ ["class", "clone", "interface", "import", "public"] :=
  ⟨by decide, by decide +kernel, camelCase_not_mem_words (by decide)⟩

/-- The table is asked about `ınterface`, which it does not name. -/
example : camelCase "ınterface" = "interface" := by
  decide +kernel

end Naming
end ClientBindings
