import ClientBindings.Proofs.Blanks
import ClientBindings.Proofs.Spelling

/-!
# Grammar — texts that spell a type

A type is spelled by the name of its scalar kind or by a constructor in front of its argument in
brackets, and blanks may stand around every part.  Whatever spells a type is read as that type, if
what stands in brackets stands on one line: no comma of a part stands outside brackets, so the text
between them falls apart where the grammar put it together.

* `TypeText.IsName`, `TypeText.Spells` — names in brackets, and the spellings of a type;
* `TypeText.OneLine` — a text whose brackets hold no line feed;
* `TypeText.Whole` — a text that splitting at commas leaves in one piece;
* `readType_of_spells` — a spelling is read as its type;
* `Ty.spelling`, `Ty.ofText_spelling` — the usual spelling of a type, which is one of them.
-/

namespace ClientBindings
namespace TypeText

open Text

/-! ## Spellings -/

/-- A name that can stand in brackets. -/
structure IsName (name : String) : Prop where
  filled : name ≠ ""
  stripped : strip name.toList = name.toList
  plain : ∀ c ∈ name.toList, c ≠ '<' ∧ c ≠ '>' ∧ c ≠ ',' ∧ c ≠ '\n'

instance (name : String) : Decidable (IsName name) :=
  decidable_of_iff
    (name ≠ "" ∧ strip name.toList = name.toList ∧
      name.toList.all (fun c => c ≠ '<' ∧ c ≠ '>' ∧ c ≠ ',' ∧ c ≠ '\n') = true)
    ⟨fun h => ⟨h.1, h.2.1, by simpa using h.2.2⟩,
      fun h => ⟨h.filled, h.stripped, by simpa using h.plain⟩⟩

/-- A constructor in front of what stands in its brackets. -/
inductive Applied (c : Constructor) (body : List Char) : List Char → Prop where
  | intro {gap : List Char} : Blanks gap → Applied c body (c.name.toList ++ gap ++ '<' :: body ++ ['>'])

/-- The texts that spell a type, from their first character to their last. -/
inductive Spells (enums : Table (List EnumValue)) : Ty → List Char → Prop where
  | scalar (s : Scalar) : Spells enums (.scalar s) s.name.toList
  | enum {name : String} {values : List EnumValue} {body text : List Char} :
      enums.get? name = some values → IsName name → Padded name.toList body →
      Applied .enum body text → Spells enums (.enum name values) text
  | ref {cls : String} {body text : List Char} :
      IsName cls → Padded cls.toList body → Applied .ref body text → Spells enums (.ref cls) text
  | record {cls : String} {body text : List Char} :
      IsName cls → Padded cls.toList body → Applied .record body text →
      Spells enums (.record cls) text
  | set {item : Ty} {inner body text : List Char} :
      Spells enums item inner → Padded inner body → Applied .set body text →
      Spells enums (.set item) text
  | option {item : Ty} {inner body text : List Char} :
      Spells enums item inner → Padded inner body → Applied .option body text →
      Spells enums (.option item) text
  | map {key value : Ty} {keyText valueText first second text : List Char} :
      Spells enums key keyText → Spells enums value valueText → Padded keyText first →
      Padded valueText second → Applied .map (first ++ ',' :: second) text →
      Spells enums (.map key value) text

theorem tight_of_isName {name : String} (h : IsName name) : Tight name.toList := by
  refine tight_of_strip ?_ h.stripped
  intro empty
  exact h.filled (String.toList_eq_nil_iff.mp empty)

theorem tight_of_applied {c : Constructor} {body text : List Char} (h : Applied c body text) :
    Tight text := by
  obtain @⟨gap, _⟩ := h
  have word : Tight c.name.toList := by
    cases c
    all_goals
      refine tight_of_strip ?_ ?_
      · decide
      · decide +kernel
  have bracket : Tight ['>'] := tight_of_strip (by decide) (by decide +kernel)
  have whole := word.append (gap ++ '<' :: body) bracket
  simpa using whole

theorem tight_of_spells {enums : Table (List EnumValue)} {ty : Ty} {text : List Char}
    (h : Spells enums ty text) : Tight text := by
  cases h with
  | scalar s =>
    cases s
    all_goals
      refine tight_of_strip ?_ ?_
      · decide
      · decide +kernel
  | enum _ _ _ happ => exact tight_of_applied happ
  | ref _ _ happ => exact tight_of_applied happ
  | record _ _ happ => exact tight_of_applied happ
  | set _ _ happ => exact tight_of_applied happ
  | option _ _ happ => exact tight_of_applied happ
  | map _ _ _ _ happ => exact tight_of_applied happ

/-! ## Commas -/

/-- Whether splitting at commas leaves a text in one piece where it starts at a depth, and goes on
behind it at the same depth. -/
def Whole (depth : Int) (cs : List Char) : Prop :=
  ∀ rest, topPieces depth (cs ++ rest) = (topPieces depth rest).modifyHead (cs ++ ·)

theorem whole_nil (depth : Int) : Whole depth [] := by
  intro rest
  exact (congrFun List.modifyHead_id (topPieces depth rest)).symm

theorem Whole.append {depth : Int} {first second : List Char} (hfirst : Whole depth first)
    (hsecond : Whole depth second) : Whole depth (first ++ second) := by
  intro rest
  rw [List.append_assoc, hfirst, hsecond, List.modifyHead_modifyHead]
  congr 1
  funext piece
  exact (List.append_assoc first second piece).symm

theorem whole_char {depth : Int} {c : Char} (plain : c ≠ '<' ∧ c ≠ '>')
    (inside : c ≠ ',' ∨ depth ≠ 0) : Whole depth [c] := by
  intro rest
  have notSplit : ¬(c = ',' ∧ depth = 0) := by
    rintro ⟨comma, outside⟩
    rcases inside with h | h
    · exact h comma
    · exact h outside
  simp [topPieces, notSplit, bracket, plain.1, plain.2]

theorem whole_of_plain {depth : Int} {cs : List Char}
    (plain : ∀ c ∈ cs, c ≠ '<' ∧ c ≠ '>' ∧ c ≠ ',') : Whole depth cs := by
  induction cs with
  | nil => exact whole_nil depth
  | cons c rest ih =>
    have hc := plain c List.mem_cons_self
    have first : Whole depth [c] := whole_char ⟨hc.1, hc.2.1⟩ (Or.inl hc.2.2)
    have others : Whole depth rest := ih fun d hd => plain d (List.mem_cons_of_mem _ hd)
    exact first.append others

theorem whole_brackets {depth : Int} {body : List Char} (h : Whole (depth + 1) body) :
    Whole depth ('<' :: body ++ ['>']) := by
  intro rest
  have opened : topPieces depth ('<' :: (body ++ '>' :: rest)) =
      (topPieces (depth + 1) (body ++ '>' :: rest)).modifyHead (List.cons '<') := by
    simp [topPieces, bracket]
  have closed : topPieces (depth + 1) ('>' :: rest) =
      (topPieces depth rest).modifyHead (List.cons '>') := by
    have back : depth + 1 + -1 = depth := by omega
    simp [topPieces, bracket, back]
  calc
    topPieces depth ('<' :: body ++ ['>'] ++ rest)
        = topPieces depth ('<' :: (body ++ '>' :: rest)) := by simp
    _ = (topPieces (depth + 1) (body ++ '>' :: rest)).modifyHead (List.cons '<') := opened
    _ = (((topPieces depth rest).modifyHead (List.cons '>')).modifyHead (body ++ ·)).modifyHead
          (List.cons '<') := by rw [h, closed]
    _ = (topPieces depth rest).modifyHead ('<' :: body ++ ['>'] ++ ·) := by
          rw [List.modifyHead_modifyHead, List.modifyHead_modifyHead]
          congr 1
          funext piece
          simp

theorem whole_blanks {depth : Int} {cs : List Char} (h : Blanks cs) : Whole depth cs := by
  have filled : isBlank '<' = false ∧ isBlank '>' = false ∧ isBlank ',' = false := by decide +kernel
  apply whole_of_plain
  intro c hc
  refine ⟨?_, ?_, ?_⟩
  · rintro rfl
    exact not_mem_of_blanks h filled.1 hc
  · rintro rfl
    exact not_mem_of_blanks h filled.2.1 hc
  · rintro rfl
    exact not_mem_of_blanks h filled.2.2 hc

theorem whole_padded {depth : Int} {inner text : List Char} (h : Whole depth inner)
    (padded : Padded inner text) : Whole depth text := by
  rcases padded with ⟨hleft, hright⟩
  exact ((whole_blanks hleft).append h).append (whole_blanks hright)

theorem whole_applied {depth : Int} {c : Constructor} {body text : List Char}
    (h : Whole (depth + 1) body) (happ : Applied c body text) : Whole depth text := by
  obtain @⟨gap, hgap⟩ := happ
  have letters : c.name.toList.all (fun d => d ≠ '<' ∧ d ≠ '>' ∧ d ≠ ',') = true := by
    cases c <;> decide
  have word : Whole depth c.name.toList := whole_of_plain (by simpa using letters)
  have front : Whole depth (c.name.toList ++ gap) := word.append (whole_blanks hgap)
  have all := front.append (whole_brackets h)
  simpa using all

theorem whole_name {depth : Int} {name : String} (h : IsName name) : Whole depth name.toList :=
  whole_of_plain fun c hc => ⟨(h.plain c hc).1, (h.plain c hc).2.1, (h.plain c hc).2.2.1⟩

/-- The commas of a spelling stand in brackets. -/
theorem whole_of_spells {enums : Table (List EnumValue)} {ty : Ty} {text : List Char}
    (h : Spells enums ty text) {depth : Int} (outside : 0 ≤ depth) : Whole depth text := by
  induction h generalizing depth with
  | scalar s =>
    have letters : s.name.toList.all (fun d => d ≠ '<' ∧ d ≠ '>' ∧ d ≠ ',') = true := by
      cases s <;> decide
    exact whole_of_plain (by simpa using letters)
  | enum _ hname hpadded happ => exact whole_applied (whole_padded (whole_name hname) hpadded) happ
  | ref hname hpadded happ => exact whole_applied (whole_padded (whole_name hname) hpadded) happ
  | record hname hpadded happ => exact whole_applied (whole_padded (whole_name hname) hpadded) happ
  | set _ hpadded happ ih => exact whole_applied (whole_padded (ih (by omega)) hpadded) happ
  | option _ hpadded happ ih => exact whole_applied (whole_padded (ih (by omega)) hpadded) happ
  | map _ _ hfirst hsecond happ ihKey ihValue =>
    -- Inside the brackets of a map the depth is not zero, so its comma splits nothing.
    refine whole_applied ?_ happ
    have key : Whole (depth + 1) _ := whole_padded (ihKey (by omega)) hfirst
    have comma : Whole (depth + 1) [','] := whole_char (by decide) (Or.inr (by omega))
    have value : Whole (depth + 1) _ := whole_padded (ihValue (by omega)) hsecond
    simpa using key.append (comma.append value)

/-- Two whole texts around a comma are its two parts. -/
theorem splitTopLevel_pair {first second : List Char} (hfirst : Whole 0 first)
    (hsecond : Whole 0 second) :
    splitTopLevel (first ++ ',' :: second) = [strip first, strip second] := by
  have last : topPieces 0 second = [second] := by
    have := hsecond []
    simpa [topPieces] using this
  have comma : topPieces 0 (',' :: second) = [] :: [second] := by
    simp [topPieces, last]
  have pieces : topPieces 0 (first ++ ',' :: second) = [first, second] := by
    rw [hfirst, comma, List.modifyHead_cons, List.append_nil]
  rw [splitTopLevel, pieces]
  rfl

/-! ## Lines -/

/-- Whether a text stands on one line from its first bracket on. -/
def OneLine (cs : List Char) : Prop :=
  '\n' ∉ cs.dropWhile (· != '<')

theorem oneLine_of_not_mem {cs : List Char} (h : '\n' ∉ cs) : OneLine cs := by
  intro inside
  exact h ((List.dropWhile_sublist _).subset inside)

theorem dropWhile_applied {c : Constructor} {gap : List Char} (hgap : Blanks gap) (body : List Char) :
    (c.name.toList ++ gap ++ '<' :: body ++ ['>']).dropWhile (· != '<') = '<' :: body ++ ['>'] := by
  have word : c.name.toList.all (· != '<') = true := by cases c <;> decide
  have front : ∀ d ∈ c.name.toList ++ gap, (d != '<') = true := by
    intro d hd
    rcases List.mem_append.mp hd with letter | space
    · exact List.all_eq_true.mp word d letter
    · have filled : isBlank '<' = false := by decide +kernel
      apply bne_iff_ne.mpr
      rintro rfl
      exact not_mem_of_blanks hgap filled space
  rw [List.append_assoc, List.dropWhile_append_of_pos front]
  rfl

theorem oneLine_applied_iff {c : Constructor} {body text : List Char} (happ : Applied c body text) :
    OneLine text ↔ '\n' ∉ body := by
  obtain @⟨gap, hgap⟩ := happ
  rw [OneLine, dropWhile_applied hgap]
  simp

theorem not_mem_of_padded {inner text : List Char} {c : Char} (h : c ∉ text)
    (padded : Padded inner text) : c ∉ inner := by
  rcases padded with ⟨_, _⟩
  intro inside
  exact h (List.mem_append_left _ (List.mem_append_right _ inside))

/-! ## Reading -/

theorem application?_of_applied {c : Constructor} {body text : List Char} (filled : body ≠ [])
    (oneLine : '\n' ∉ body) (happ : Applied c body text) :
    application? text = some (c.name.toList, strip body) := by
  obtain @⟨gap, hgap⟩ := happ
  have letters : c.name.toList.all isWord = true := by cases c <;> decide +kernel
  have wordChars : ∀ d ∈ c.name.toList, isWord d = true := List.all_eq_true.mp letters
  have bracketEnds : isWord '<' = false ∧ isBlank '<' = false := by decide +kernel
  -- Neither a blank nor the bracket goes on with the word, and the bracket is no blank.
  have behindWord : ∀ rest, (gap ++ '<' :: rest).takeWhile isWord = [] ∧
      (gap ++ '<' :: rest).dropWhile isWord = gap ++ '<' :: rest := by
    intro rest
    cases gap with
    | nil => simp [bracketEnds.1]
    | cons d others =>
      have notWord : isWord d = false := isWord_of_isBlank (hgap d List.mem_cons_self)
      simp [notWord]
  have word : (c.name.toList ++ (gap ++ '<' :: (body ++ ['>']))).takeWhile isWord =
      c.name.toList := by
    rw [List.takeWhile_append_of_pos wordChars, (behindWord _).1, List.append_nil]
  have dropped : ((c.name.toList ++ (gap ++ '<' :: (body ++ ['>']))).dropWhile isWord).dropWhile
      isBlank = '<' :: (body ++ ['>']) := by
    rw [List.dropWhile_append_of_pos wordChars, (behindWord _).2, dropWhile_blanks hgap]
    simp [bracketEnds.2]
  have inside : enclosed? ('<' :: (body ++ ['>'])) = some body := by
    simp [enclosed?, filled, oneLine]
  have isSome : c.name.toList ≠ [] := by cases c <;> decide
  have regroup : c.name.toList ++ gap ++ '<' :: body ++ ['>'] =
      c.name.toList ++ (gap ++ '<' :: (body ++ ['>'])) := by simp
  rw [regroup, application?]
  simp only [word, dropped, inside, if_neg isSome, Option.map_some]

theorem not_scalar_of_applied {c : Constructor} {body text : List Char}
    (happ : Applied c body text) : Scalar.ofName? (.ofList text) = none := by
  obtain @⟨gap, _⟩ := happ
  refine List.find?_eq_none.mpr ?_
  intro s _ same
  have bracket : '<' ∈ s.name.toList := by
    rw [of_decide_eq_true same]
    simp
  have none : '<' ∉ s.name.toList := by cases s <;> decide
  exact none bracket

theorem ofName?_name (c : Constructor) :
    Constructor.ofName? (.ofList c.name.toList) = some c := by
  cases c <;> decide

theorem filled_padded {inner text : List Char} (tight : Tight inner) (h : Padded inner text) :
    text ≠ [] := by
  rcases h with ⟨_, _⟩
  simp [tight.ne_nil]

/-- What a constructor makes of its argument, in a text that applies it. -/
def built (enums : Table (List EnumValue)) (text argument : List Char) :
    Constructor → Except SchemaFault Ty
  | .enum =>
    match enums.get? (.ofList argument) with
    | none => .error (.undeclaredEnum (.ofList argument))
    | some values => .ok (.enum (.ofList argument) values)
  | .ref => .ok (.ref (.ofList argument))
  | .record => .ok (.record (.ofList argument))
  | .set => (readType enums argument).map .set
  | .option => (readType enums argument).map .option
  | .map =>
    match splitTopLevel argument with
    | [key, value] => do
      let key ← readType enums key
      let value ← readType enums value
      return .map key value
    | _ => .error (.mapArity (.ofList text))

theorem readType_of_application {enums : Table (List EnumValue)} {cs argument : List Char}
    {c : Constructor} (noScalar : Scalar.ofName? (.ofList (strip cs)) = none)
    (happ : application? (strip cs) = some (c.name.toList, argument)) :
    readType enums cs = built enums (strip cs) argument c := by
  have named := ofName?_name c
  rw [readType, noScalar]
  simp only
  split
  · next unread => simp [happ] at unread
  · next word found hfound =>
    rw [happ] at hfound
    rcases Prod.mk.inj (Option.some.inj hfound) with ⟨rfl, rfl⟩
    rw [named]
    cases c with
    | map =>
      simp only [built]
      generalize splitTopLevel argument = parts
      rcases parts with _ | ⟨_, _ | ⟨_, _ | _⟩⟩ <;> rfl
    | _ => rfl

/-- A padded application is read by its constructor, from what stands in the brackets. -/
theorem readType_of_applied {enums : Table (List EnumValue)} {c : Constructor}
    {inner body text padded : List Char} (tight : Tight inner) (hbody : Padded inner body)
    (happ : Applied c body text) (oneLine : OneLine text) (hpadded : Padded text padded) :
    readType enums padded = built enums text inner c := by
  have whole : strip padded = text := strip_of_padded (tight_of_applied happ) hpadded
  have noScalar : Scalar.ofName? (.ofList (strip padded)) = none := by
    rw [whole]
    exact not_scalar_of_applied happ
  have parts : application? (strip padded) = some (c.name.toList, inner) := by
    rw [whole, application?_of_applied (filled_padded tight hbody)
      ((oneLine_applied_iff happ).mp oneLine) happ, strip_of_padded tight hbody]
  rw [readType_of_application noScalar parts, whole]

/-- Whatever spells a type is read as the type, if its brackets hold no line feed. -/
theorem readType_of_spells {enums : Table (List EnumValue)} {ty : Ty} {inner text : List Char}
    (h : Spells enums ty inner) (oneLine : OneLine inner) (padded : Padded inner text) :
    readType enums text = .ok ty := by
  induction h generalizing text with
  | scalar s =>
    have kind : Scalar.ofName? (.ofList (strip text)) = some s := by
      have spelled : Spells enums (.scalar s) s.name.toList := .scalar s
      rw [strip_of_padded (tight_of_spells spelled) padded]
      cases s <;> decide
    rw [readType, kind]
  | enum declared hname hbody happ =>
    rw [readType_of_applied (tight_of_isName hname) hbody happ oneLine padded]
    simp [built, declared]
  | ref hname hbody happ =>
    rw [readType_of_applied (tight_of_isName hname) hbody happ oneLine padded]
    simp [built]
  | record hname hbody happ =>
    rw [readType_of_applied (tight_of_isName hname) hbody happ oneLine padded]
    simp [built]
  | set hitem hbody happ ih =>
    have inside := not_mem_of_padded ((oneLine_applied_iff happ).mp oneLine) hbody
    have item := ih (oneLine_of_not_mem inside) (padded_self _)
    rw [readType_of_applied (tight_of_spells hitem) hbody happ oneLine padded]
    simp [built, item, Except.map]
  | option hitem hbody happ ih =>
    have inside := not_mem_of_padded ((oneLine_applied_iff happ).mp oneLine) hbody
    have item := ih (oneLine_of_not_mem inside) (padded_self _)
    rw [readType_of_applied (tight_of_spells hitem) hbody happ oneLine padded]
    simp [built, item, Except.map]
  | @map key value keyText valueText first second text hkey hvalue hfirst hsecond happ ihKey ihValue =>
    have inside := (oneLine_applied_iff happ).mp oneLine
    rw [List.mem_append, List.mem_cons, not_or, not_or] at inside
    have readKey := ihKey (oneLine_of_not_mem (not_mem_of_padded inside.1 hfirst)) (padded_self _)
    have readValue :=
      ihValue (oneLine_of_not_mem (not_mem_of_padded inside.2.2 hsecond)) (padded_self _)
    obtain @⟨left, right, hleft, hright⟩ := hfirst
    obtain @⟨left', right', hleft', hright'⟩ := hsecond
    -- Without the outer blanks, the brackets hold the key, the value, and what is around the comma.
    have tight : Tight (keyText ++ (right ++ ',' :: left') ++ valueText) :=
      (tight_of_spells hkey).append _ (tight_of_spells hvalue)
    have front : Padded keyText (keyText ++ right) := by
      have behind : Padded keyText ([] ++ keyText ++ right) := .intro blanks_nil hright
      simpa using behind
    have back : Padded valueText (left' ++ valueText) := by
      have before : Padded valueText (left' ++ valueText ++ []) := .intro hleft' blanks_nil
      simpa using before
    have hbody : Padded (keyText ++ (right ++ ',' :: left') ++ valueText)
        (left ++ keyText ++ right ++ ',' :: (left' ++ valueText ++ right')) := by
      have around : Padded (keyText ++ (right ++ ',' :: left') ++ valueText)
          (left ++ (keyText ++ (right ++ ',' :: left') ++ valueText) ++ right') := .intro hleft hright'
      simpa using around
    have parts : splitTopLevel (keyText ++ (right ++ ',' :: left') ++ valueText) =
        [keyText, valueText] := by
      have key : Whole 0 keyText := whole_of_spells hkey (Int.le_refl 0)
      have value : Whole 0 valueText := whole_of_spells hvalue (Int.le_refl 0)
      have pair := splitTopLevel_pair (whole_padded key front) (whole_padded value back)
      rw [strip_of_padded (tight_of_spells hkey) front,
        strip_of_padded (tight_of_spells hvalue) back] at pair
      simpa using pair
    rw [readType_of_applied tight hbody happ oneLine padded]
    simp only [built, parts, readKey, readValue]
    rfl

end TypeText

/-! ## The usual spelling -/

namespace Ty

/-- A constructor in front of its argument, without spaces. -/
def applied (c : TypeText.Constructor) (argument : String) : String :=
  c.name ++ "<" ++ argument ++ ">"

/-- A type as a schema usually spells it: with one space behind the comma of a map, and no others. -/
def spelling : Ty → String
  | primitive kind => kind
  | enum name _ => applied .enum name
  | set item => applied .set item.spelling
  | map key value => applied .map (key.spelling ++ ", " ++ value.spelling)
  | ref cls => applied .ref cls
  | record cls => applied .record cls
  | option inner => applied .option inner.spelling

/-- Whether a type can be spelled by itself, its parts left out.  A scalar has to be of a known kind,
and an enumeration one of a table. -/
def IsSpellable (enums : Table (List EnumValue)) : Ty → Prop
  | primitive kind => ∃ s : Scalar, kind = s.name
  | enum name values => (name, values) ∈ enums ∧ TypeText.IsName name
  | ref cls => TypeText.IsName cls
  | record cls => TypeText.IsName cls
  | set _ | map _ _ | option _ => True

instance (enums : Table (List EnumValue)) (ty : Ty) : Decidable (ty.IsSpellable enums) :=
  match ty with
  | primitive kind =>
    decidable_of_iff (∃ s ∈ Scalar.all, kind = s.name)
      ⟨fun ⟨s, _, h⟩ => ⟨s, h⟩, fun ⟨s, h⟩ => ⟨s, by cases s <;> decide, h⟩⟩
  | enum name values => inferInstanceAs (Decidable ((name, values) ∈ enums ∧ TypeText.IsName name))
  | ref cls => inferInstanceAs (Decidable (TypeText.IsName cls))
  | record cls => inferInstanceAs (Decidable (TypeText.IsName cls))
  | set _ | map _ _ | option _ => .isTrue trivial

/-- A type whose parts can all be spelled. -/
def Spellable (enums : Table (List EnumValue)) (ty : Ty) : Prop :=
  ∀ part ∈ ty.parts, part.IsSpellable enums

instance (enums : Table (List EnumValue)) (ty : Ty) : Decidable (ty.Spellable enums) :=
  inferInstanceAs (Decidable (∀ part ∈ ty.parts, part.IsSpellable enums))

end Ty

namespace TypeText

open Text

theorem applied_usual (c : Constructor) (argument : String) :
    Applied c argument.toList (Ty.applied c argument).toList := by
  have bare : Applied c argument.toList
      (c.name.toList ++ [] ++ '<' :: argument.toList ++ ['>']) := .intro blanks_nil
  simpa [Ty.applied] using bare

/-- The usual spelling spells its type. -/
theorem spells_spelling {enums : Table (List EnumValue)} (distinct : enums.names.Nodup) {ty : Ty}
    (h : ty.Spellable enums) : Spells enums ty ty.spelling.toList := by
  induction ty with
  | primitive kind =>
    obtain ⟨s, rfl⟩ := h _ (Ty.self_mem_parts _)
    exact .scalar s
  | enum name values =>
    obtain ⟨declared, hname⟩ := h _ (Ty.self_mem_parts _)
    exact .enum (Table.get?_of_mem distinct declared) hname (padded_self _) (applied_usual _ _)
  | ref cls => exact .ref (h _ (Ty.self_mem_parts _)) (padded_self _) (applied_usual _ _)
  | record cls => exact .record (h _ (Ty.self_mem_parts _)) (padded_self _) (applied_usual _ _)
  | set item ih =>
    have inner := ih fun part hpart => h part (List.mem_cons_of_mem _ hpart)
    exact .set inner (padded_self _) (applied_usual _ _)
  | option item ih =>
    have inner := ih fun part hpart => h part (List.mem_cons_of_mem _ hpart)
    exact .option inner (padded_self _) (applied_usual _ _)
  | map key value ihKey ihValue =>
    have first := ihKey fun part hpart =>
      h part (List.mem_cons_of_mem _ (List.mem_append_left _ hpart))
    have second := ihValue fun part hpart =>
      h part (List.mem_cons_of_mem _ (List.mem_append_right _ hpart))
    have space : Blanks [' '] := by
      intro c hc
      rw [List.mem_singleton.mp hc]
      decide +kernel
    have behind : Padded value.spelling.toList (' ' :: value.spelling.toList) := by
      have before : Padded value.spelling.toList ([' '] ++ value.spelling.toList ++ []) :=
        .intro space blanks_nil
      simpa using before
    refine .map first second (padded_self _) behind ?_
    have usual := applied_usual .map (key.spelling ++ ", " ++ value.spelling)
    simpa [Ty.spelling] using usual

theorem not_mem_applied {c : Constructor} {argument : String} (h : '\n' ∉ argument.toList) :
    '\n' ∉ (Ty.applied c argument).toList := by
  have word : '\n' ∉ c.name.toList := by cases c <;> decide
  simp [Ty.applied, word, h]

/-- The usual spelling stands on one line. -/
theorem not_mem_spelling {enums : Table (List EnumValue)} {ty : Ty} (h : ty.Spellable enums) :
    '\n' ∉ ty.spelling.toList := by
  have onLine : ∀ {name : String}, IsName name → '\n' ∉ name.toList :=
    fun hname inside => (hname.plain _ inside).2.2.2 rfl
  induction ty with
  | primitive kind =>
    obtain ⟨s, rfl⟩ := h _ (Ty.self_mem_parts _)
    cases s <;> decide
  | enum name values => exact not_mem_applied (onLine (h _ (Ty.self_mem_parts _)).2)
  | ref cls => exact not_mem_applied (onLine (h _ (Ty.self_mem_parts _)))
  | record cls => exact not_mem_applied (onLine (h _ (Ty.self_mem_parts _)))
  | set item ih => exact not_mem_applied (ih fun part hpart => h part (List.mem_cons_of_mem _ hpart))
  | option item ih =>
    exact not_mem_applied (ih fun part hpart => h part (List.mem_cons_of_mem _ hpart))
  | map key value ihKey ihValue =>
    have first := ihKey fun part hpart =>
      h part (List.mem_cons_of_mem _ (List.mem_append_left _ hpart))
    have second := ihValue fun part hpart =>
      h part (List.mem_cons_of_mem _ (List.mem_append_right _ hpart))
    apply not_mem_applied
    simp [first, second]

end TypeText

/-- The usual spelling of a type is read as the type. -/
theorem Ty.ofText_spelling {enums : Table (List EnumValue)} (distinct : enums.names.Nodup) {ty : Ty}
    (h : ty.Spellable enums) : Ty.ofText enums ty.spelling = .ok ty :=
  TypeText.readType_of_spells (TypeText.spells_spelling distinct h)
    (TypeText.oneLine_of_not_mem (TypeText.not_mem_spelling h)) (Text.padded_self _)

end ClientBindings
