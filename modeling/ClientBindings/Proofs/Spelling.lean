import ClientBindings.Proofs.Collection
import ClientBindings.Schema.Document

/-!
# Spelling — the types of a parsed schema

Every type in a schema that was read from a document is spelled by some text of it, so all of its
parts are known: scalars are of a known kind, enumerations are declared and carry their declared
values, and no name holds a line break.

* `Ty.Known` — a type whose parts are known to a table of enumerations;
* `Ty.eq_of_canonical_eq` — known types are told apart by equality;
* `known_of_readType` — a type that a text spells is known;
* `Document.listed`, `Document.valuesUnder` — what a document lists;
* `Schema.ofDocument_eq_ok`, `Document.apiClass_eq_ok`, `Document.message_eq_ok` — what the parts of a
  schema are read from;
* `Schema.declared_of_ofDocument` — the enumerations that the classes of a parsed schema mention are
  those of its document;
* `Schema.known_of_ofDocument` — so is every type that the classes of a parsed schema mention.
-/

namespace ClientBindings

namespace Ty

/-- Whether a type is known by itself, its parts left out. -/
def IsKnown (enums : Table (List EnumValue)) : Ty → Prop
  | primitive kind => ∃ s : Scalar, kind = s.name
  | enum name values => enums.get? name = some values ∧ '\n' ∉ name.toList
  | ref cls => '\n' ∉ cls.toList
  | record cls => '\n' ∉ cls.toList
  | set _ | map _ _ | option _ => True

/-- A type whose parts are known: declared where they are enumerations, and named on one line. -/
def Known (enums : Table (List EnumValue)) (ty : Ty) : Prop :=
  ∀ part ∈ ty.parts, part.IsKnown enums

variable {enums : Table (List EnumValue)}

theorem known_of_isKnown {ty : Ty} (alone : ty.parts = [ty]) (h : ty.IsKnown enums) :
    ty.Known enums := by
  intro part hpart
  rw [alone] at hpart
  exact List.mem_singleton.mp hpart ▸ h

theorem known_set {item : Ty} (h : item.Known enums) : (set item).Known enums := by
  intro part hpart
  rcases List.mem_cons.mp hpart with rfl | hpart
  · trivial
  · exact h part hpart

theorem known_option {inner : Ty} (h : inner.Known enums) : (option inner).Known enums := by
  intro part hpart
  rcases List.mem_cons.mp hpart with rfl | hpart
  · trivial
  · exact h part hpart

theorem known_map {key value : Ty} (hkey : key.Known enums) (hvalue : value.Known enums) :
    (map key value).Known enums := by
  intro part hpart
  rcases List.mem_cons.mp hpart with rfl | hpart
  · trivial
  · rcases List.mem_append.mp hpart with hpart | hpart
    · exact hkey part hpart
    · exact hvalue part hpart

theorem known_scalar (s : Scalar) : (scalar s).Known enums :=
  known_of_isKnown rfl ⟨s, rfl⟩

theorem known_of_part {s t : Ty} (ht : t.Known enums) (hs : s ∈ t.parts) : s.Known enums := by
  intro part hpart
  exact ht part (mem_parts_trans hpart hs)

/-- Known types are told apart by equality: the name of an enumeration fixes its values. -/
theorem eq_of_canonical_eq {s t : Ty} (hs : s.Known enums) (ht : t.Known enums)
    (h : s.canonical = t.canonical) : s = t := by
  induction s generalizing t with
  | primitive kind => cases t <;> simp_all [canonical]
  | ref cls => cases t <;> simp_all [canonical]
  | record cls => cases t <;> simp_all [canonical]
  | enum name values =>
    cases t with
    | enum other others =>
      -- Both carry what the table declares for their name, spelled as the table spells it.
      have sameName : name = other := (Ty.enum.inj h).1
      have declared := (hs _ (self_mem_parts _)).1
      have declaredOther := (ht _ (self_mem_parts _)).1
      rw [sameName, declaredOther] at declared
      rw [sameName, Option.some.inj declared]
    | _ => simp [canonical] at h
  | set item ih =>
    cases t with
    | set other =>
      have same := ih (known_of_part hs item.item_mem_parts)
        (known_of_part ht other.item_mem_parts) (Ty.set.inj h)
      rw [same]
    | _ => simp [canonical] at h
  | option inner ih =>
    cases t with
    | option other =>
      have same := ih (known_of_part hs inner.inner_mem_parts)
        (known_of_part ht other.inner_mem_parts) (Ty.option.inj h)
      rw [same]
    | _ => simp [canonical] at h
  | map key value ihKey ihValue =>
    cases t with
    | map otherKey otherValue =>
      rcases Ty.map.inj h with ⟨hkey, hvalue⟩
      have sameKey := ihKey (known_of_part hs (key_mem_parts _ _))
        (known_of_part ht (key_mem_parts _ _)) hkey
      have sameValue := ihValue (known_of_part hs (value_mem_parts _ _))
        (known_of_part ht (value_mem_parts _ _)) hvalue
      rw [sameKey, sameValue]
    | _ => simp [canonical] at h

end Ty

namespace TypeText

/-! ## Names -/

theorem not_mem_of_enclosed? {cs body : List Char} (h : enclosed? cs = some body) :
    '\n' ∉ body := by
  unfold enclosed? at h
  split at h
  · split at h
    · split at h
      · simp at h
      · next outside =>
        have body_eq := Option.some.inj h
        rw [← body_eq, List.mem_reverse]
        exact fun inside => outside (Or.inr inside)
    · simp at h
  · simp at h

theorem mem_of_mem_strip {c : Char} {cs : List Char} (h : c ∈ Text.strip cs) : c ∈ cs := by
  have inEnd := List.mem_reverse.mp h
  have inStart := List.mem_reverse.mp ((List.dropWhile_sublist Text.isBlank).subset inEnd)
  exact (List.dropWhile_sublist Text.isBlank).subset inStart

/-- The argument of a constructor stands on one line. -/
theorem not_mem_of_application? {cs word argument : List Char}
    (h : application? cs = some (word, argument)) : '\n' ∉ argument := by
  unfold application? at h
  simp only at h
  split at h
  · simp at h
  · rcases Option.map_eq_some_iff.mp h with ⟨body, hbody, hpair⟩
    have argument_eq : Text.strip body = argument := congrArg Prod.snd hpair
    intro inside
    rw [← argument_eq] at inside
    exact not_mem_of_enclosed? hbody (mem_of_mem_strip inside)

/-! ## Reading -/

theorem known_of_readType {enums : Table (List EnumValue)} {cs : List Char} {ty : Ty}
    (h : readType enums cs = .ok ty) : ty.Known enums := by
  -- The cases are those of the reader: a scalar kind, the six constructors, and what is refused.
  fun_induction readType enums cs generalizing ty with
  | case1 cs s hscalar =>
    rw [← Except.ok.inj h]
    exact Ty.known_scalar s
  | case5 cs noScalar word argument happ henum values hvalues =>
    rw [← Except.ok.inj h]
    refine Ty.known_of_isKnown rfl ⟨hvalues, ?_⟩
    simpa using not_mem_of_application? happ
  | case6 cs noScalar word argument happ href =>
    rw [← Except.ok.inj h]
    exact Ty.known_of_isKnown rfl (by simpa [Ty.IsKnown] using not_mem_of_application? happ)
  | case7 cs noScalar word argument happ hrecord =>
    rw [← Except.ok.inj h]
    exact Ty.known_of_isKnown rfl (by simpa [Ty.IsKnown] using not_mem_of_application? happ)
  | case8 cs noScalar word argument happ hset ih =>
    rcases Except.map_eq_ok.mp h with ⟨item, hitem, rfl⟩
    exact Ty.known_set (ih hitem)
  | case9 cs noScalar word argument happ hoption ih =>
    rcases Except.map_eq_ok.mp h with ⟨inner, hinner, rfl⟩
    exact Ty.known_option (ih hinner)
  | case10 cs noScalar word argument happ hmap key value hparts ihKey ihValue =>
    rcases Except.bind_eq_ok.mp h with ⟨keyTy, hkey, h⟩
    rcases Except.bind_eq_ok.mp h with ⟨valueTy, hvalue, h⟩
    rw [← Except.ok.inj h]
    exact Ty.known_map (ihKey hkey) (ihValue hvalue)
  | case2 => simp at h
  | case3 => simp at h
  | case4 => simp at h
  | case11 => simp at h

end TypeText

/-! ## Documents -/

namespace Document

variable {defs : Definitions}

/-! ### Lists of a document -/

/-- The entries that an object lists under a key. -/
def listed (j : Json) (key : String) : List Json :=
  ((j.get? key).getD (.list [])).entries?.getD []

/-- The values that an object has under a key: those of a list, or the characters of a text. -/
def valuesUnder (j : Json) (key : String) : List Json :=
  ((j.get? key).getD (.list [])).elements?.getD []

theorem member?_eq_ok {j : Json} {key : String} {found : Option Json}
    (h : member? j key = .ok found) : found = j.get? key := by
  cases j with
  | object members => exact (Except.ok.inj h).symm
  | _ => cases h

theorem entries_eq_ok {j : Json} {key : String} {items : List Json}
    (h : entries j key = .ok items) : items = listed j key := by
  rcases Except.bind_eq_ok.mp h with ⟨found, hfound, h⟩
  rw [member?_eq_ok hfound] at h
  unfold listed
  split at h
  · next given =>
    rw [given]
    exact (Except.ok.inj h).symm
  · cases h

/-! ### Types of a document -/

/-- A type that a document spells. -/
def Spelled (defs : Definitions) (ty : Ty) : Prop :=
  ∃ text, Ty.ofText defs.enums text = .ok ty

theorem known_of_spelled {ty : Ty} (h : Spelled defs ty) : ty.Known defs.enums := by
  rcases h with ⟨text, h⟩
  exact TypeText.known_of_readType h

theorem spelled_string : Spelled defs (.scalar .string) := by
  have named : Scalar.ofName? (.ofList (Text.strip "string".toList)) = some .string := by decide
  refine ⟨"string", ?_⟩
  rw [Ty.ofText, TypeText.readType, named]

theorem spelled_of_type {j : Json} {ty : Ty} (h : type defs j = .ok ty) : Spelled defs ty := by
  rcases Except.bind_eq_ok.mp h with ⟨spelling, _, h⟩
  exact ⟨spelling, h⟩

theorem spelled_of_field {j : Json} {f : Field} (h : field defs j = .ok f) : Spelled defs f.ty := by
  rcases Except.bind_eq_ok.mp h with ⟨name, _, h⟩
  rcases Except.bind_eq_ok.mp h with ⟨spelling, _, h⟩
  rcases Except.bind_eq_ok.mp h with ⟨ty, hty, h⟩
  rcases Except.bind_eq_ok.mp h with ⟨life, _, h⟩
  rw [← Except.ok.inj h]
  exact spelled_of_type hty

theorem mem_leavesOf {groups : List Json} {contents : List FieldNode} {leaf : Leaf} :
    leaf ∈ leavesOf groups contents ↔ ∃ node ∈ contents, leaf ∈ node.leavesUnder groups := by
  induction contents with
  | nil => simp [leavesOf]
  | cons node rest ih => simp [leavesOf, ih]

/-- The leaves of a field tree are spelled, at every depth. -/
theorem spelled_of_nodes {j : Json} {contents : List FieldNode} (h : nodes defs j = .ok contents)
    {groups : List Json} {leaf : Leaf} (hleaf : leaf ∈ leavesOf groups contents) :
    Spelled defs leaf.field.ty := by
  rw [nodes] at h
  split at h
  · simp at h
  · next items hitems =>
    rcases mem_leavesOf.mp hleaf with ⟨node, hnode, hleaf⟩
    rcases Except.exists_of_mem_of_mapM_eq_ok h hnode with ⟨⟨entry, hentry⟩, _, hread⟩
    rcases Except.bind_eq_ok.mp hread with ⟨name, _, hread⟩
    -- An entry without a namespace is a field, and its own leaf.
    cases name with
    | none =>
      rcases Except.bind_eq_ok.mp hread with ⟨f, hf, hread⟩
      rw [← Except.ok.inj hread, FieldNode.leavesUnder, List.mem_singleton] at hleaf
      rw [hleaf]
      exact spelled_of_field hf
    | some name =>
      simp only at hread
      split at hread
      · rw [← Except.ok.inj hread] at hleaf
        simp [FieldNode.leavesUnder, leavesOf] at hleaf
      · next fields hfields =>
        rcases Except.bind_eq_ok.mp hread with ⟨inner, hinner, hread⟩
        rw [← Except.ok.inj hread, FieldNode.leavesUnder] at hleaf
        have smaller : sizeOf fields < sizeOf j :=
          Nat.lt_trans (Json.sizeOf_lt_of_get? hfields) (Json.sizeOf_lt_of_mem_entries? hitems hentry)
        exact spelled_of_nodes hinner hleaf
termination_by sizeOf j

theorem spelled_of_param {j : Json} {p : Param} (h : param defs j = .ok p) : Spelled defs p.ty := by
  rcases Except.bind_eq_ok.mp h with ⟨name, _, h⟩
  rcases Except.bind_eq_ok.mp h with ⟨spelling, _, h⟩
  rcases Except.bind_eq_ok.mp h with ⟨ty, hty, h⟩
  rcases Except.bind_eq_ok.mp h with ⟨life, _, h⟩
  rw [← Except.ok.inj h]
  exact spelled_of_type hty

theorem spelled_of_answer {j : Json} {given : Answer} (h : answer defs j = .ok (some given)) :
    Spelled defs given.ty := by
  rcases Except.bind_eq_ok.mp h with ⟨result, _, h⟩
  -- There is no answer, or a text spells its type, or an object names the text that does.
  split at h
  · simp [pure, Except.pure] at h
  · simp [pure, Except.pure] at h
  · rcases Except.bind_eq_ok.mp h with ⟨ty, hty, h⟩
    rw [← Option.some.inj (Except.ok.inj h)]
    exact ⟨_, hty⟩
  · rcases Except.bind_eq_ok.mp h with ⟨spelling, _, h⟩
    rcases Except.bind_eq_ok.mp h with ⟨ty, hty, h⟩
    rw [← Option.some.inj (Except.ok.inj h)]
    exact spelled_of_type hty

/-- What a message is read from: its class, its answer, the errors that it names, and its
parameters. -/
theorem message_eq_ok {cls j : Json} {m : Message} (h : message defs cls j = .ok m) :
    m.cls = cls ∧ answer defs j = .ok m.answer ∧
      (valuesUnder j "errors").mapM (declaredError defs cls j) = .ok m.errors ∧
      (listed j "params").mapM (param defs) = .ok m.params := by
  rcases Except.bind_eq_ok.mp h with ⟨given, hgiven, h⟩
  rcases Except.bind_eq_ok.mp h with ⟨found, hfound, h⟩
  rw [member?_eq_ok hfound] at h
  dsimp only at h
  -- The errors are read between the answer and the parameters, if they are listed.
  split at h
  · next elements helements =>
    rcases Except.bind_eq_ok.mp h with ⟨names, hnames, h⟩
    rcases Except.bind_eq_ok.mp h with ⟨errors, herrors, h⟩
    rcases Except.bind_eq_ok.mp h with ⟨name, _, h⟩
    rcases Except.bind_eq_ok.mp h with ⟨items, hitems, h⟩
    rcases Except.bind_eq_ok.mp h with ⟨params, hparams, h⟩
    rcases Except.bind_eq_ok.mp h with ⟨life, _, h⟩
    have named : names = valuesUnder j "errors" := by
      rw [valuesUnder, helements, ← Except.ok.inj hnames]
      rfl
    rw [← Except.ok.inj h]
    exact ⟨rfl, hgiven, named ▸ herrors, entries_eq_ok hitems ▸ hparams⟩
  · rcases Except.bind_eq_ok.mp h with ⟨names, hnames, _⟩
    simp at hnames

theorem spelled_of_message {cls j : Json} {m : Message} (h : message defs cls j = .ok m) {ty : Ty}
    (hty : ty ∈ m.types) : Spelled defs ty := by
  rcases message_eq_ok h with ⟨_, hanswer, _, hparams⟩
  rcases List.mem_append.mp hty with there | there
  · cases given : m.answer with
    | none => simp [given] at there
    | some answer =>
      have same : ty = answer.ty := by simpa [given] using there
      exact same ▸ spelled_of_answer (given ▸ hanswer)
  · rcases List.mem_map.mp there with ⟨p, hp, rfl⟩
    rcases Except.exists_of_mem_of_mapM_eq_ok hparams hp with ⟨item, _, hitem⟩
    exact spelled_of_param hitem

/-- What a class is read from: its fields and its messages. -/
theorem apiClass_eq_ok {j : Json} {cls : ApiClass} (h : apiClass defs j = .ok cls) :
    ∃ fields, nodes defs fields = .ok cls.contents ∧
      (listed j "messages").mapM (message defs cls.name) = .ok cls.messages := by
  rcases Except.bind_eq_ok.mp h with ⟨name, _, h⟩
  rcases Except.bind_eq_ok.mp h with ⟨fields, _, h⟩
  rcases Except.bind_eq_ok.mp h with ⟨contents, hcontents, h⟩
  rcases Except.bind_eq_ok.mp h with ⟨items, hitems, h⟩
  rcases Except.bind_eq_ok.mp h with ⟨messages, hmessages, h⟩
  rcases Except.bind_eq_ok.mp h with ⟨life, _, h⟩
  rw [← Except.ok.inj h]
  exact ⟨_, hcontents, entries_eq_ok hitems ▸ hmessages⟩

theorem spelled_of_apiClass {j : Json} {cls : ApiClass} (h : apiClass defs j = .ok cls) {ty : Ty}
    (hty : ty ∈ cls.types) : Spelled defs ty := by
  rcases apiClass_eq_ok h with ⟨fields, hcontents, hmessages⟩
  rcases List.mem_append.mp hty with hrecord | hmessage
  · rcases (ApiClass.mem_recordTypes.mp hrecord).2 with ⟨leaf, hleaf, rfl⟩ | ⟨_, rfl⟩
    · exact spelled_of_nodes hcontents hleaf
    · exact spelled_string
  · rcases List.mem_flatMap.mp hmessage with ⟨m, hm, hty⟩
    rcases Except.exists_of_mem_of_mapM_eq_ok hmessages hm with ⟨item, _, hitem⟩
    exact spelled_of_message hitem hty

/-- What the definitions are read from: the enumerations and the errors of a document. -/
theorem definitions_eq_ok {document : Json} (h : definitions document = .ok defs) :
    enums? document = some defs.enums ∧ errors? document = some defs.errors := by
  cases document with
  | object members =>
    simp only [definitions] at h
    split at h
    · next enums errors henums herrors =>
      cases h
      exact ⟨henums, herrors⟩
    · cases h
  | _ => cases h

/-- Errors of distinct names are found by them. -/
theorem find?_of_mem {errors : List ErrorDef}
    (distinct : errors.Pairwise fun e f => e.name.sameName f.name = false) {e : ErrorDef}
    (h : e ∈ errors) : errors.find? (fun d => d.name.sameName e.name) = some e := by
  rcases List.append_of_mem h with ⟨before, after, split⟩
  rw [split, List.find?_append]
  rw [split, List.pairwise_append] at distinct
  have none : before.find? (fun f => f.name.sameName e.name) = none := by
    rw [List.find?_eq_none]
    intro f hf
    simp [distinct.2.2 f hf e List.mem_cons_self]
  have same : e.name.sameName e.name = true := by simp [Json.sameName]
  simp [none, same]

end Document

/-- What a schema is read from: its definitions and its classes. -/
theorem Schema.ofDocument_eq_ok {document : Json} {schema : Schema}
    (h : ofDocument document = .ok schema) :
    ∃ defs, Document.definitions document = .ok defs ∧ schema.errors = defs.errors ∧
      (Document.listed document "classes").mapM (Document.apiClass defs) = .ok schema.classes := by
  rcases Except.bind_eq_ok.mp h with ⟨defs, hdefs, h⟩
  rcases Except.bind_eq_ok.mp h with ⟨items, hitems, h⟩
  rcases Except.bind_eq_ok.mp h with ⟨classes, hclasses, h⟩
  rcases Except.bind_eq_ok.mp h with ⟨releaseItems, _, h⟩
  rcases Except.bind_eq_ok.mp h with ⟨releases, _, h⟩
  rw [← Except.ok.inj h]
  exact ⟨defs, hdefs, rfl, Document.entries_eq_ok hitems ▸ hclasses⟩

/-- The classes of a parsed schema mention the enumerations that its document declares, with the
declared values. -/
theorem Schema.declared_of_ofDocument {document : Json} {schema : Schema}
    (h : ofDocument document = .ok schema) :
    ∃ defs, Document.definitions document = .ok defs ∧
      ∀ cls ∈ schema.classes, ∀ ty ∈ cls.types, ty.Known defs.enums := by
  rcases ofDocument_eq_ok h with ⟨defs, hdefs, _, classes⟩
  refine ⟨defs, hdefs, ?_⟩
  intro cls hcls ty hty
  rcases Except.exists_of_mem_of_mapM_eq_ok classes hcls with ⟨item, _, hitem⟩
  exact Document.known_of_spelled (Document.spelled_of_apiClass hitem hty)

/-- The classes of a parsed schema mention types that are known to the enumerations of its
document. -/
theorem Schema.known_of_ofDocument {document : Json} {schema : Schema}
    (h : ofDocument document = .ok schema) :
    ∃ enums, ∀ cls ∈ schema.classes, ∀ ty ∈ cls.types, ty.Known enums := by
  rcases declared_of_ofDocument h with ⟨defs, _, known⟩
  exact ⟨defs.enums, known⟩

end ClientBindings
