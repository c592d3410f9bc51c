import ClientBindings.Proofs.Grammar

/-!
# Acceptance — the texts that are read as a type

Whatever is read as a type is the usual spelling of the type, blanks aside.  But the reader takes all
that stands up to the last bracket for the argument of a constructor, and names a class by the whole
of it.  So a text outside the grammar may be read, and its type then names a class by brackets,
commas, or nothing.  Where every class is named by a name, the text belongs to the grammar.

* `TypeText.Writes` — the texts of the grammar, with blanks around all of their parts;
* `Ty.ofText_of_writes` — they are read as the types that they spell;
* `application?_eq_some`, `intercalate_topPieces` — nothing is lost when a text is taken apart;
* `bare_of_readType` — a text that is read is the usual spelling of its type, blanks aside;
* `Ty.WellNamed`, `Ty.ofText_wellNamed_iff` — the texts of the grammar are those that are read as a
  type whose classes are named by names.
-/

namespace ClientBindings

/-! ## Names -/

/-- A name that is there and holds neither brackets nor commas. -/
structure TypeText.IsPlain (name : String) : Prop where
  filled : name ≠ ""
  plain : ∀ c ∈ name.toList, c ≠ '<' ∧ c ≠ '>' ∧ c ≠ ','

/-- Whether all classes in a type, at every depth, have plain names. -/
def Ty.WellNamed (ty : Ty) : Prop :=
  ∀ part ∈ ty.parts, ∀ cls, part = .ref cls ∨ part = .record cls → TypeText.IsPlain cls

theorem Ty.wellNamed_of_part {s t : Ty} (ht : t.WellNamed) (hs : s ∈ t.parts) : s.WellNamed := by
  intro part hpart
  exact ht part (mem_parts_trans hpart hs)

namespace TypeText

open Text

variable {enums : Table (List EnumValue)} {ty : Ty} {c : Constructor}
  {cs word argument body text : List Char}

/-! ## Texts of the grammar -/

/-- A text that spells a type, with blanks around every part and its brackets on one line. -/
inductive Writes (enums : Table (List EnumValue)) (ty : Ty) (text : List Char) : Prop where
  | intro {inner : List Char} : Spells enums ty inner → OneLine inner → Padded inner text →
      Writes enums ty text

/-! ## Applications taken apart -/

theorem enclosed?_eq_some (h : enclosed? cs = some body) : cs = '<' :: body ++ ['>'] := by
  unfold enclosed? at h
  split at h
  · next rest =>
    split at h
    · next inner hrev =>
      split at h
      · cases h
      · have turned : rest = inner.reverse ++ ['>'] := by
          simpa using congrArg List.reverse hrev
        rw [turned, Option.some.inj h]
        rfl
    · cases h
  · cases h

/-- A text that is taken apart is a word, blanks, and brackets around the argument. -/
theorem application?_eq_some (h : application? cs = some (word, argument)) :
    ∃ gap body, cs = word ++ gap ++ '<' :: body ++ ['>'] ∧ Blanks gap ∧ '\n' ∉ body ∧
      argument = strip body := by
  unfold application? at h
  dsimp only at h
  split at h
  · cases h
  · obtain ⟨body, hbody, pair⟩ := Option.map_eq_some_iff.mp h
    obtain ⟨rfl, rfl⟩ := Prod.mk.inj pair
    refine ⟨(cs.dropWhile isWord).takeWhile isBlank, body, ?_, blanks_takeWhile _,
      not_mem_of_enclosed? hbody, rfl⟩
    calc
      cs = cs.takeWhile isWord ++ cs.dropWhile isWord := List.takeWhile_append_dropWhile.symm
      _ = cs.takeWhile isWord ++ ((cs.dropWhile isWord).takeWhile isBlank ++
            (cs.dropWhile isWord).dropWhile isBlank) :=
          congrArg (cs.takeWhile isWord ++ ·) List.takeWhile_append_dropWhile.symm
      _ = cs.takeWhile isWord ++ (cs.dropWhile isWord).takeWhile isBlank ++ '<' :: body ++ ['>'] := by
          rw [enclosed?_eq_some hbody]
          simp

theorem name_of_ofName? (h : Constructor.ofName? (.ofList word) = some c) :
    word = c.name.toList := by
  have found := List.find?_some h
  have same : c.name = .ofList word := of_decide_eq_true found
  rw [same, String.toList_ofList]

theorem name_of_scalar {s : Scalar} (h : Scalar.ofName? (.ofList cs) = some s) :
    cs = s.name.toList := by
  have found := List.find?_some h
  have same : s.name = .ofList cs := of_decide_eq_true found
  rw [same, String.toList_ofList]

/-- A text that is taken apart applies its constructor to the argument, with blanks around it. -/
theorem exists_applied (happ : application? cs = some (word, argument))
    (named : Constructor.ofName? (.ofList word) = some c) :
    ∃ body, Applied c body cs ∧ '\n' ∉ body ∧ Padded argument body := by
  obtain ⟨gap, body, rfl, hgap, oneLine, rfl⟩ := application?_eq_some happ
  rw [name_of_ofName? named]
  exact ⟨body, .intro hgap, oneLine, padded_strip body⟩

/-! ## Pairs taken apart -/

theorem topPieces_ne_nil (depth : Int) (cs : List Char) : topPieces depth cs ≠ [] := by
  induction cs generalizing depth with
  | nil => simp [topPieces]
  | cons c rest ih =>
    unfold topPieces
    split
    · simp
    · rw [ne_eq, List.modifyHead_eq_nil_iff]
      exact ih _

theorem intercalate_modifyHead (c : Char) {pieces : List (List Char)} (filled : pieces ≠ []) :
    [','].intercalate (pieces.modifyHead (List.cons c)) = c :: [','].intercalate pieces := by
  obtain ⟨first, others, rfl⟩ := List.exists_cons_of_ne_nil filled
  cases others <;> simp [List.intercalate]

/-- The pieces of a text with commas between them are the text. -/
theorem intercalate_topPieces (depth : Int) (cs : List Char) :
    [','].intercalate (topPieces depth cs) = cs := by
  induction cs generalizing depth with
  | nil => rfl
  | cons c rest ih =>
    unfold topPieces
    split
    · next splits =>
      obtain ⟨first, others, pieces⟩ := List.exists_cons_of_ne_nil (topPieces_ne_nil depth rest)
      have tail := ih depth
      rw [pieces] at tail ⊢
      rw [splits.1, ← tail]
      simp [List.intercalate]
    · rw [intercalate_modifyHead c (topPieces_ne_nil _ rest), ih]

theorem exists_pair {key value : List Char} (h : splitTopLevel cs = [key, value]) :
    ∃ first second, cs = first ++ ',' :: second ∧ key = strip first ∧ value = strip second := by
  obtain ⟨first, others, pieces, hkey, hothers⟩ := List.map_eq_cons_iff.mp h
  obtain ⟨second, rest, rfl, hvalue, hrest⟩ := List.map_eq_cons_iff.mp hothers
  rw [List.map_eq_nil_iff.mp hrest] at pieces
  refine ⟨first, second, ?_, hkey.symm, hvalue.symm⟩
  rw [← intercalate_topPieces 0 cs, pieces]
  simp [List.intercalate]

/-! ## Blanks aside -/

theorem bare_applied (happ : Applied c body text) :
    bare text = c.name.toList ++ '<' :: bare body ++ ['>'] := by
  obtain @⟨gap, hgap⟩ := happ
  have letters : bare c.name.toList = c.name.toList := by cases c <;> decide +kernel
  have opening : isBlank '<' = false := by decide +kernel
  have closing : bare ['>'] = ['>'] := by decide +kernel
  simp [letters, bare_blanks hgap, bare_cons opening, closing]

/-- An application has the bare text of the usual spelling, if its argument has. -/
theorem bare_application (happ : application? (strip cs) = some (word, argument))
    (named : Constructor.ofName? (.ofList word) = some c) {usual : String}
    (h : bare argument = bare usual.toList) : bare cs = bare (Ty.applied c usual).toList := by
  obtain ⟨body, applied, _, padded⟩ := exists_applied happ named
  calc
    bare cs = bare (strip cs) := (bare_strip cs).symm
    _ = c.name.toList ++ '<' :: bare body ++ ['>'] := bare_applied applied
    _ = c.name.toList ++ '<' :: bare usual.toList ++ ['>'] := by rw [bare_padded padded, h]
    _ = bare (Ty.applied c usual).toList := (bare_applied (applied_usual c usual)).symm

/-- A text that is read as a type is the usual spelling of the type, blanks aside. -/
theorem bare_of_readType (h : readType enums cs = .ok ty) : bare cs = bare ty.spelling.toList := by
  fun_induction readType enums cs generalizing ty with
  | case1 cs s hscalar =>
    rw [← Except.ok.inj h, ← bare_strip cs, name_of_scalar hscalar]
    rfl
  | case5 cs noScalar word argument happ henum values hvalues =>
    rw [← Except.ok.inj h]
    exact bare_application happ henum (by rw [String.toList_ofList])
  | case6 cs noScalar word argument happ href =>
    rw [← Except.ok.inj h]
    exact bare_application happ href (by rw [String.toList_ofList])
  | case7 cs noScalar word argument happ hrecord =>
    rw [← Except.ok.inj h]
    exact bare_application happ hrecord (by rw [String.toList_ofList])
  | case8 cs noScalar word argument happ hset ih =>
    obtain ⟨item, hitem, rfl⟩ := Except.map_eq_ok.mp h
    exact bare_application happ hset (ih hitem)
  | case9 cs noScalar word argument happ hoption ih =>
    obtain ⟨inner, hinner, rfl⟩ := Except.map_eq_ok.mp h
    exact bare_application happ hoption (ih hinner)
  | case10 cs noScalar word argument happ hmap key value hparts ihKey ihValue =>
    obtain ⟨keyTy, hkey, h⟩ := Except.bind_eq_ok.mp h
    obtain ⟨valueTy, hvalue, h⟩ := Except.bind_eq_ok.mp h
    rw [← Except.ok.inj h]
    apply bare_application happ hmap
    obtain ⟨first, second, rfl, rfl, rfl⟩ := exists_pair hparts
    have keys : bare first = bare keyTy.spelling.toList := bare_strip first ▸ ihKey hkey
    have values : bare second = bare valueTy.spelling.toList := bare_strip second ▸ ihValue hvalue
    have comma : isBlank ',' = false := by decide +kernel
    have space : isBlank ' ' = true := by decide +kernel
    simp [keys, values, bare_cons comma, bare_cons_of_isBlank space]
  | case2 => cases h
  | case3 => cases h
  | case4 => cases h
  | case11 => cases h

/-! ## Back to the grammar -/

theorem isPlain_of_isName {name : String} (h : IsName name) : IsPlain name :=
  ⟨h.filled, fun c hc => ⟨(h.plain c hc).1, (h.plain c hc).2.1, (h.plain c hc).2.2.1⟩⟩

/-- The argument of a constructor is a name if it is plain. -/
theorem isName_of_application {cs word argument : List Char}
    (happ : application? cs = some (word, argument)) (plain : IsPlain (.ofList argument)) :
    IsName (.ofList argument) := by
  obtain ⟨_, body, _, _, oneLine, rfl⟩ := application?_eq_some happ
  refine ⟨plain.filled, ?_, ?_⟩
  · rw [String.toList_ofList, strip_strip]
  · intro c hc
    refine ⟨(plain.plain c hc).1, (plain.plain c hc).2.1, (plain.plain c hc).2.2, ?_⟩
    rintro rfl
    rw [String.toList_ofList] at hc
    exact oneLine (mem_of_mem_strip hc)

theorem wellNamed_of_spells (h : Spells enums ty text) : ty.WellNamed := by
  induction h with
  | scalar s => simp [Ty.WellNamed, Ty.scalar, Ty.parts]
  | enum => simp [Ty.WellNamed, Ty.parts]
  | ref hname => simpa [Ty.WellNamed, Ty.parts] using isPlain_of_isName hname
  | record hname => simpa [Ty.WellNamed, Ty.parts] using isPlain_of_isName hname
  | set _ _ _ ih => simpa [Ty.WellNamed, Ty.parts] using ih
  | option _ _ _ ih => simpa [Ty.WellNamed, Ty.parts] using ih
  | map _ _ _ _ _ ihKey ihValue =>
    intro part hpart cls hcls
    rcases List.mem_cons.mp hpart with rfl | hpart
    · simp at hcls
    · rcases List.mem_append.mp hpart with inKey | inValue
      · exact ihKey part inKey cls hcls
      · exact ihValue part inValue cls hcls

/-- A text that is read as a type whose classes have plain names spells it. -/
theorem spells_of_readType (named : ∀ name ∈ enums.names, IsPlain name)
    (h : readType enums cs = .ok ty) (wellNamed : ty.WellNamed) : Spells enums ty (strip cs) := by
  fun_induction readType enums cs generalizing ty with
  | case1 cs s hscalar =>
    rw [← Except.ok.inj h, name_of_scalar hscalar]
    exact .scalar s
  | case5 cs noScalar word argument happ henum values hvalues =>
    rw [← Except.ok.inj h]
    obtain ⟨body, applied, _, padded⟩ := exists_applied happ henum
    have declared : String.ofList argument ∈ enums.names :=
      Table.get?_isSome_iff.mp (by rw [hvalues]; rfl)
    refine .enum hvalues (isName_of_application happ (named _ declared)) ?_ applied
    rwa [String.toList_ofList]
  | case6 cs noScalar word argument happ href =>
    rw [← Except.ok.inj h] at wellNamed ⊢
    obtain ⟨body, applied, _, padded⟩ := exists_applied happ href
    have plain := wellNamed _ (Ty.self_mem_parts _) _ (Or.inl rfl)
    refine .ref (isName_of_application happ plain) ?_ applied
    rwa [String.toList_ofList]
  | case7 cs noScalar word argument happ hrecord =>
    rw [← Except.ok.inj h] at wellNamed ⊢
    obtain ⟨body, applied, _, padded⟩ := exists_applied happ hrecord
    have plain := wellNamed _ (Ty.self_mem_parts _) _ (Or.inr rfl)
    refine .record (isName_of_application happ plain) ?_ applied
    rwa [String.toList_ofList]
  | case8 cs noScalar word argument happ hset ih =>
    obtain ⟨item, hitem, rfl⟩ := Except.map_eq_ok.mp h
    obtain ⟨body, applied, _, padded⟩ := exists_applied happ hset
    have inner := ih hitem (Ty.wellNamed_of_part wellNamed item.item_mem_parts)
    exact .set inner ((padded_strip argument).trans padded) applied
  | case9 cs noScalar word argument happ hoption ih =>
    obtain ⟨item, hitem, rfl⟩ := Except.map_eq_ok.mp h
    obtain ⟨body, applied, _, padded⟩ := exists_applied happ hoption
    have inner := ih hitem (Ty.wellNamed_of_part wellNamed item.inner_mem_parts)
    exact .option inner ((padded_strip argument).trans padded) applied
  | case10 cs noScalar word argument happ hmap key value hparts ihKey ihValue =>
    obtain ⟨keyTy, hkey, h⟩ := Except.bind_eq_ok.mp h
    obtain ⟨valueTy, hvalue, h⟩ := Except.bind_eq_ok.mp h
    rw [← Except.ok.inj h] at wellNamed ⊢
    obtain ⟨body, applied, _, padded⟩ := exists_applied happ hmap
    obtain ⟨first, second, rfl, rfl, rfl⟩ := exists_pair hparts
    have spelledKey := ihKey hkey (Ty.wellNamed_of_part wellNamed (Ty.key_mem_parts _ _))
    have spelledValue := ihValue hvalue (Ty.wellNamed_of_part wellNamed (Ty.value_mem_parts _ _))
    rw [strip_strip] at spelledKey spelledValue
    -- The blanks around the argument stand around its key and its value.
    obtain @⟨left, right, hleft, hright⟩ := padded
    have front : Padded (strip first) (left ++ first) :=
      (padded_strip first).trans (by simpa using Padded.intro hleft blanks_nil)
    have back : Padded (strip second) (second ++ right) :=
      (padded_strip second).trans (Padded.intro blanks_nil hright)
    refine .map spelledKey spelledValue front back ?_
    simpa using applied
  | case2 => cases h
  | case3 => cases h
  | case4 => cases h
  | case11 => cases h

/-- What is read stands on one line from its first bracket on. -/
theorem oneLine_of_readType (h : readType enums cs = .ok ty) : OneLine (strip cs) := by
  rw [readType] at h
  split at h
  · next s hscalar =>
    rw [name_of_scalar hscalar]
    apply oneLine_of_not_mem
    cases s <;> decide
  · split at h
    · cases h
    · next word argument happ =>
      split at h
      · cases h
      all_goals
        next named =>
          obtain ⟨body, applied, oneLine, _⟩ := exists_applied happ named
          exact (oneLine_applied_iff applied).mpr oneLine

end TypeText

/-! ## Exactly the grammar -/

namespace Ty

open TypeText

/-- Whatever spells a type is read as the type, whatever blanks stand around its parts. -/
theorem ofText_of_writes {enums : Table (List EnumValue)} {ty : Ty} {text : String}
    (h : Writes enums ty text.toList) : ofText enums text = .ok ty := by
  obtain ⟨spelled, oneLine, padded⟩ := h
  exact readType_of_spells spelled oneLine padded

end Ty

namespace Sample

def boots : List EnumValue :=
  [⟨.text "reset", .text "Reset on boot"⟩, ⟨.text "persist", .text ""⟩]

/-- A table with one enumeration. -/
def bootTable : Table (List EnumValue) :=
  [("on_boot", boots)]

/-- A type with its spaces and tabs. -/
def spaced : String := " map< enum< on_boot > ,\tset <ref< my VM >> > "

def spacedTy : Ty :=
  .map (.enum "on_boot" boots) (.set (.ref "my VM"))

open TypeText Text in
theorem writes_spaced : Writes bootTable spacedTy spaced.toList := by
  have space : Blanks [' '] := by decide +kernel
  have tab : Blanks ['\t'] := by decide +kernel
  have around : ∀ inner, Padded inner ([' '] ++ inner ++ [' ']) := fun _ => .intro space space
  have key : Spells bootTable (.enum "on_boot" boots) "enum< on_boot >".toList :=
    @Spells.enum _ _ _ " on_boot ".toList _ rfl (by decide +kernel) (around _)
      (@Applied.intro _ _ [] blanks_nil)
  have item : Spells bootTable (.ref "my VM") "ref< my VM >".toList :=
    @Spells.ref _ _ " my VM ".toList _ (by decide +kernel) (around _)
      (@Applied.intro _ _ [] blanks_nil)
  have value : Spells bootTable (.set (.ref "my VM")) "set <ref< my VM >>".toList :=
    .set item (padded_self _) (@Applied.intro _ _ [' '] space)
  have whole : Spells bootTable spacedTy "map< enum< on_boot > ,\tset <ref< my VM >> >".toList := by
    refine @Spells.map _ _ _ _ _ " enum< on_boot > ".toList "\tset <ref< my VM >> ".toList _
      key value (around _) ?_ ?_
    · exact @Padded.intro _ ['\t'] [' '] tab space
    · exact @Applied.intro _ _ [] blanks_nil
  exact .intro whole (oneLine_of_not_mem (by decide +kernel)) (around _)

end Sample

namespace Ty

open TypeText

theorem ofText_of_writes_spaced :
    Writes Sample.bootTable Sample.spacedTy Sample.spaced.toList ∧
      ofText Sample.bootTable Sample.spaced = .ok Sample.spacedTy :=
  ⟨Sample.writes_spaced, ofText_of_writes Sample.writes_spaced⟩

/-- What is read is the usual spelling of its type, blanks aside.  It belongs to the grammar exactly
if all classes in the type have plain names. -/
theorem ofText_wellNamed_iff {enums : Table (List EnumValue)}
    (named : ∀ name ∈ enums.names, IsPlain name) (text : String) (ty : Ty) :
    (ofText enums text = .ok ty → Text.bare text.toList = Text.bare ty.spelling.toList) ∧
      (ofText enums text = .ok ty ∧ ty.WellNamed ↔ Writes enums ty text.toList) := by
  refine ⟨bare_of_readType, ?_, ?_⟩
  · rintro ⟨read, wellNamed⟩
    exact .intro (spells_of_readType named read wellNamed) (oneLine_of_readType read)
      (Text.padded_strip _)
  · rintro ⟨spelled, oneLine, padded⟩
    exact ⟨readType_of_spells spelled oneLine padded, wellNamed_of_spells spelled⟩

theorem ofText_wellNamed_iff_spaced :
    (∀ name ∈ Sample.bootTable.names, IsPlain name) ∧
      ofText Sample.bootTable Sample.spaced = .ok Sample.spacedTy ∧ Sample.spacedTy.WellNamed ∧
      Text.bare Sample.spaced.toList = Text.bare Sample.spacedTy.spelling.toList := by
  have named : ∀ name ∈ Sample.bootTable.names, IsPlain name := by
    intro name hname
    rw [List.mem_singleton.mp hname]
    exact isPlain_of_isName (by decide +kernel)
  have exactly := ofText_wellNamed_iff named Sample.spaced Sample.spacedTy
  obtain ⟨read, wellNamed⟩ := exactly.2.mpr Sample.writes_spaced
  exact ⟨named, read, wellNamed, exactly.1 read⟩

/-- A set of two arguments is read as a set of references to one class, whose name holds the bracket
and the comma between them. -/
theorem ofText_not_wellNamed :
    ofText [] "set<ref<a>,ref<b>>" = .ok (.set (.ref "a>,ref<b")) ∧
      ¬(set (.ref "a>,ref<b")).WellNamed ∧
      ∀ ty, ¬Writes [] ty "set<ref<a>,ref<b>>".toList := by
  have read : ofText [] "set<ref<a>,ref<b>>" = .ok (.set (.ref "a>,ref<b")) := by decide +kernel
  have odd : ¬(set (.ref "a>,ref<b")).WellNamed := by
    intro wellNamed
    have plain := wellNamed _ (item_mem_parts _) _ (Or.inl rfl)
    exact (plain.plain ',' (by decide)).2.2 rfl
  refine ⟨read, odd, ?_⟩
  rintro ty ⟨spelled, oneLine, padded⟩
  have same := Except.ok.inj (read.symm.trans (readType_of_spells spelled oneLine padded))
  rw [same] at odd
  exact odd (wellNamed_of_spells spelled)

end Ty
end ClientBindings
