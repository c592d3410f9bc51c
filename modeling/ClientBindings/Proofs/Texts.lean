import ClientBindings.Proofs.SourceFaults

/-!
# Texts — schemas whose names are texts

A document may name things by any value, and describe them by any.  A schema of texts names them by
texts, and describes them by texts or not at all.  When it is read from a document, its types
resolve, the errors of its messages are among its own, and all that its classes lack to be written
are descriptions.

* `Schema.names`, `Schema.codeNames`, `Schema.descriptions` — what a schema calls things;
* `Schema.Texts` — a schema of texts;
* `Schema.errors_mem_of_ofDocument` — the errors of messages;
* `Schema.resolves_of_texts`, `Schema.emits_of_texts` — types and classes of a schema of texts.
-/

namespace ClientBindings

/-! ## Schemas of texts -/

/-- Releases that a lifecycle names. -/
def Lifecycle.codeNames (life : Lifecycle) : List Json :=
  [life.published, life.deprecated]

namespace Message

def names (m : Message) : List Json :=
  m.name :: m.params.map Param.name

def codeNames (m : Message) : List Json :=
  m.lifecycle.codeNames ++ m.params.flatMap fun p => p.lifecycle.codeNames

def descriptions (m : Message) : List Json :=
  m.description :: ((m.answer.map Answer.description).toList ++ m.params.map Param.description)

end Message

/-- Values of the enumerations in a type. -/
def Ty.values (ty : Ty) : List EnumValue :=
  ty.parts.flatMap fun part =>
    match part with
    | enum _ values => values
    | _ => []

namespace ApiClass

/-- Values of the enumerations that a class mentions. -/
def values (cls : ApiClass) : List EnumValue :=
  cls.types.flatMap Ty.values

def names (cls : ApiClass) : List Json :=
  cls.name :: (cls.leaves.flatMap Leaf.names ++ cls.messages.flatMap Message.names ++
    cls.values.map EnumValue.wire)

def codeNames (cls : ApiClass) : List Json :=
  cls.lifecycle.codeNames ++ cls.leaves.flatMap (fun leaf => leaf.field.lifecycle.codeNames) ++
    cls.messages.flatMap Message.codeNames

def descriptions (cls : ApiClass) : List Json :=
  cls.description :: (cls.leaves.map (fun leaf => leaf.field.description) ++
    cls.messages.flatMap Message.descriptions ++ cls.values.map EnumValue.description)

end ApiClass

namespace Schema

/-- Names of classes, fields, groups, messages, parameters and errors, and the values of
enumerations. -/
def names (schema : Schema) : List Json :=
  schema.classes.flatMap ApiClass.names ++ schema.errors.flatMap fun e => e.name :: e.params

def codeNames (schema : Schema) : List Json :=
  schema.classes.flatMap ApiClass.codeNames

def descriptions (schema : Schema) : List Json :=
  schema.classes.flatMap ApiClass.descriptions ++ schema.errors.map ErrorDef.description

/-- A schema whose names are texts; releases need not be named, and descriptions may be missing. -/
structure Texts (schema : Schema) : Prop where
  names : ∀ j ∈ schema.names, j.isText = true
  codeNames : ∀ j ∈ schema.codeNames, j.isText = true ∨ j = .null
  descriptions : ∀ j ∈ schema.descriptions, j.isText = true ∨ j = .null

instance (schema : Schema) : Decidable schema.Texts :=
  decidable_of_iff
    ((∀ j ∈ schema.names, j.isText = true) ∧
      (∀ j ∈ schema.codeNames, j.isText = true ∨ j = .null) ∧
      ∀ j ∈ schema.descriptions, j.isText = true ∨ j = .null)
    ⟨fun h => ⟨h.1, h.2.1, h.2.2⟩, fun h => ⟨h.names, h.codeNames, h.descriptions⟩⟩

end Schema

theorem Ty.mem_values {ty : Ty} {v : EnumValue} :
    v ∈ ty.values ↔ ∃ name values, .enum name values ∈ ty.parts ∧ v ∈ values := by
  unfold values
  rw [List.mem_flatMap]
  constructor
  · rintro ⟨part, hpart, hv⟩
    cases part with
    | enum name values => exact ⟨name, values, hpart, hv⟩
    | _ => simp at hv
  · rintro ⟨name, values, hpart, hv⟩
    exact ⟨_, hpart, hv⟩

namespace ApiClass

variable {cls : ApiClass}

theorem leaf_mem_types {leaf : Leaf} (h : leaf ∈ cls.leaves) : leaf.field.ty ∈ cls.types :=
  List.mem_append_left _ (mem_recordTypes.mpr ⟨isEmpty_of_leaf h, Or.inl ⟨leaf, h, rfl⟩⟩)

theorem message_mem_types {m : Message} (h : m ∈ cls.messages) {ty : Ty} (hty : ty ∈ m.types) :
    ty ∈ cls.types :=
  List.mem_append_right _ (List.mem_flatMap.mpr ⟨m, h, hty⟩)

end ApiClass

/-! ## Parsed schemas -/

namespace Document

/-- A declared error is looked up by its name. -/
theorem declaredError_eq_ok {defs : Definitions} {cls message name : Json} {e : ErrorDef}
    (h : declaredError defs cls message name = .ok e) : defs.error? name = some e := by
  unfold declaredError at h
  cases scalar : name.isScalar with
  | false => simp [scalar, bind, Except.bind] at h
  | true =>
    simp only [scalar, Bool.not_true, Bool.false_eq_true, if_false] at h
    cases found : defs.error? name with
    | some declared =>
      simp only [found] at h
      rw [← Except.ok.inj h]
    | none =>
      simp only [found] at h
      rcases Except.bind_eq_ok.mp h with ⟨_, _, h⟩
      simp at h

theorem errors_mem_of_message {defs : Definitions} {cls j : Json} {m : Message}
    (h : message defs cls j = .ok m) {e : ErrorDef} (he : e ∈ m.errors) : e ∈ defs.errors := by
  rcases message_eq_ok h with ⟨_, _, declared, _⟩
  obtain ⟨name, _, found⟩ := Except.exists_of_mem_of_mapM_eq_ok declared he
  exact List.mem_of_find?_eq_some (declaredError_eq_ok found)

end Document

namespace Schema

variable {document : Json} {schema : Schema}

/-- The errors of messages are those that the schema lists. -/
theorem errors_mem_of_ofDocument (parsed : ofDocument document = .ok schema) {cls : ApiClass}
    (hcls : cls ∈ schema.classes) {m : Message} (hm : m ∈ cls.messages) {e : ErrorDef}
    (he : e ∈ m.errors) : e ∈ schema.errors := by
  rcases ofDocument_eq_ok parsed with ⟨defs, _, same, classes⟩
  obtain ⟨j, _, read⟩ := Except.exists_of_mem_of_mapM_eq_ok classes hcls
  rcases Document.apiClass_eq_ok read with ⟨_, _, messages⟩
  obtain ⟨entry, _, hentry⟩ := Except.exists_of_mem_of_mapM_eq_ok messages hm
  rw [same]
  exact Document.errors_mem_of_message hentry he

/-! ## Parts of a schema of texts -/

section Parts

variable {P : Fault → Prop} {cls : ApiClass} {m : Message}

theorem textOr_of_texts (texts : schema.Texts) (allowed : .null ∈ schema.descriptions → P .textExpected)
    {j : Json} (hj : j ∈ schema.descriptions) : j.TextOr P := by
  rcases texts.descriptions j hj with text | rfl
  · exact Or.inl text
  · exact Or.inr (allowed hj)

/-- A description that is missing can be looked up like any other. -/
theorem isScalar_of_texts (texts : schema.Texts) {j : Json} (hj : j ∈ schema.descriptions) :
    j.isScalar = true := by
  rcases texts.descriptions j hj with text | rfl
  · exact Json.isScalar_of_isText text
  · rfl

theorem isNamed_of_texts (texts : schema.Texts) {life : Lifecycle}
    (h : ∀ j ∈ life.codeNames, j ∈ schema.codeNames) : life.IsNamed := by
  have scalar : ∀ j ∈ life.codeNames, j.isScalar = true := by
    intro j hj
    rcases texts.codeNames j (h j hj) with text | rfl
    · exact Json.isScalar_of_isText text
    · rfl
  exact ⟨scalar _ (by simp [Lifecycle.codeNames]), scalar _ (by simp [Lifecycle.codeNames])⟩

theorem name_mem_names (hcls : cls ∈ schema.classes) {j : Json} (h : j ∈ cls.names) :
    j ∈ schema.names :=
  List.mem_append_left _ (List.mem_flatMap.mpr ⟨cls, hcls, h⟩)

theorem codeName_mem_codeNames (hcls : cls ∈ schema.classes) {j : Json} (h : j ∈ cls.codeNames) :
    j ∈ schema.codeNames :=
  List.mem_flatMap.mpr ⟨cls, hcls, h⟩

theorem description_mem_descriptions (hcls : cls ∈ schema.classes) {j : Json}
    (h : j ∈ cls.descriptions) : j ∈ schema.descriptions :=
  List.mem_append_left _ (List.mem_flatMap.mpr ⟨cls, hcls, h⟩)

/-- The values of an enumeration that a class mentions are texts, but for missing descriptions. -/
theorem value_of_texts (texts : schema.Texts) (hcls : cls ∈ schema.classes) {v : EnumValue}
    (hv : v ∈ cls.values) :
    v.wire.isText = true ∧ v.description ∈ schema.descriptions := by
  constructor
  · refine texts.names _ (name_mem_names hcls ?_)
    simp only [ApiClass.names, List.mem_cons, List.mem_append, List.mem_map]
    exact Or.inr (Or.inr ⟨v, hv, rfl⟩)
  · refine description_mem_descriptions hcls ?_
    simp only [ApiClass.descriptions, List.mem_cons, List.mem_append, List.mem_map]
    exact Or.inr (Or.inr ⟨v, hv, rfl⟩)

theorem resolves_of_texts (parsed : ofDocument document = .ok schema) (texts : schema.Texts)
    (hcls : cls ∈ schema.classes) {ty : Ty} (hty : ty ∈ cls.types) : ty.Resolves := by
  obtain ⟨enums, known⟩ := known_of_ofDocument parsed
  intro part hpart
  have isKnown := known cls hcls ty hty part hpart
  -- A scalar kind is known since a text spells it; values are known to be texts.
  cases part with
  | primitive kind => exact isKnown
  | enum name values =>
    intro v hv
    have there : v ∈ cls.values :=
      List.mem_flatMap.mpr ⟨ty, hty, Ty.mem_values.mpr ⟨name, values, hpart, hv⟩⟩
    obtain ⟨wire, described⟩ := value_of_texts texts hcls there
    exact Bool.and_eq_true_iff.mpr
      ⟨Json.isScalar_of_isText wire, isScalar_of_texts texts described⟩
  | _ => trivial

theorem error_emits_of_texts (texts : schema.Texts)
    (allowed : .null ∈ schema.descriptions → P .textExpected) {e : ErrorDef}
    (he : e ∈ schema.errors) : e.Emits P := by
  have name : ∀ j ∈ e.name :: e.params, j.isText = true := by
    intro j hj
    exact texts.names j (List.mem_append_right _ (List.mem_flatMap.mpr ⟨e, he, hj⟩))
  refine ⟨name _ List.mem_cons_self, fun j hj => name j (List.mem_cons_of_mem _ hj), ?_⟩
  exact textOr_of_texts texts allowed (List.mem_append_right _ (List.mem_map_of_mem he))

theorem message_emits_of_texts (parsed : ofDocument document = .ok schema) (texts : schema.Texts)
    (allowed : .null ∈ schema.descriptions → P .textExpected) (hcls : cls ∈ schema.classes)
    (hm : m ∈ cls.messages) : m.Emits P := by
  have named : ∀ j ∈ m.names, j.isText = true := by
    intro j hj
    refine texts.names j (name_mem_names hcls (List.mem_cons_of_mem _ ?_))
    have there : j ∈ cls.messages.flatMap Message.names := List.mem_flatMap.mpr ⟨m, hm, hj⟩
    exact List.mem_append_left _ (List.mem_append_right _ there)
  have released : ∀ j ∈ m.codeNames, j ∈ schema.codeNames := by
    intro j hj
    refine codeName_mem_codeNames hcls (List.mem_append_right _ ?_)
    exact List.mem_flatMap.mpr ⟨m, hm, hj⟩
  have described : ∀ j ∈ m.descriptions, j.TextOr P := by
    intro j hj
    refine textOr_of_texts texts allowed (description_mem_descriptions hcls ?_)
    have there : j ∈ cls.messages.flatMap Message.descriptions := List.mem_flatMap.mpr ⟨m, hm, hj⟩
    exact List.mem_cons_of_mem _ (List.mem_append_left _ (List.mem_append_right _ there))
  have resolves : ∀ ty ∈ m.types, ty.Resolves := by
    intro ty hty
    exact resolves_of_texts parsed texts hcls (ApiClass.message_mem_types hm hty)
  refine ⟨named _ List.mem_cons_self, ?_, ?_, ?_, ?_, described _ List.mem_cons_self⟩
  -- Whatever a parameter, an answer or an error is called stands in the lists of the schema.
  · intro p hp
    refine ⟨named _ (List.mem_cons_of_mem _ (List.mem_map_of_mem hp)),
      resolves _ (List.mem_append_right _ (List.mem_map_of_mem hp)), ?_, ?_⟩
    · refine isNamed_of_texts texts fun j hj => released j (List.mem_append_right _ ?_)
      exact List.mem_flatMap.mpr ⟨p, hp, hj⟩
    · refine described _ (List.mem_cons_of_mem _ (List.mem_append_right _ ?_))
      exact List.mem_map_of_mem hp
  · intro answer hanswer
    rw [Option.mem_def] at hanswer
    constructor
    · exact resolves _ (List.mem_append_left _ (by simp [hanswer]))
    · exact described _ (List.mem_cons_of_mem _ (List.mem_append_left _ (by simp [hanswer])))
  · intro e he
    exact error_emits_of_texts texts allowed (errors_mem_of_ofDocument parsed hcls hm he)
  · exact isNamed_of_texts texts fun j hj => released j (List.mem_append_left _ hj)

/-- The classes of a parsed schema of texts can be emitted, but for missing descriptions. -/
theorem emits_of_texts (parsed : ofDocument document = .ok schema) (texts : schema.Texts)
    (allowed : .null ∈ schema.descriptions → P .textExpected) (hcls : cls ∈ schema.classes) :
    cls.Emits P := by
  have named : ∀ j ∈ cls.names, j.isText = true := fun j hj => texts.names j (name_mem_names hcls hj)
  have described : ∀ j ∈ cls.descriptions, j.TextOr P := fun j hj =>
    textOr_of_texts texts allowed (description_mem_descriptions hcls hj)
  refine ⟨named _ List.mem_cons_self, ?_, ?_, ?_, described _ List.mem_cons_self⟩
  · intro leaf hleaf
    refine ⟨?_, ?_, ?_, ?_⟩
    · refine List.all_eq_true.mpr fun j hj => named j (List.mem_cons_of_mem _ ?_)
      have there : j ∈ cls.leaves.flatMap Leaf.names := List.mem_flatMap.mpr ⟨leaf, hleaf, hj⟩
      exact List.mem_append_left _ (List.mem_append_left _ there)
    · exact resolves_of_texts parsed texts hcls (ApiClass.leaf_mem_types hleaf)
    · refine isNamed_of_texts texts fun j hj => codeName_mem_codeNames hcls ?_
      have there : j ∈ cls.leaves.flatMap fun leaf => leaf.field.lifecycle.codeNames :=
        List.mem_flatMap.mpr ⟨leaf, hleaf, hj⟩
      exact List.mem_append_left _ (List.mem_append_right _ there)
    · refine described _ (List.mem_cons_of_mem _ ?_)
      have there : leaf.field.description ∈ cls.leaves.map fun leaf => leaf.field.description :=
        List.mem_map_of_mem hleaf
      exact List.mem_append_left _ (List.mem_append_left _ there)
  · intro m hm
    exact message_emits_of_texts parsed texts allowed hcls hm
  · refine isNamed_of_texts texts fun j hj => codeName_mem_codeNames hcls ?_
    exact List.mem_append_left _ (List.mem_append_left _ hj)


theorem resolves_objectKinds (texts : schema.Texts) : (objectKinds schema.classes).Resolves := by
  intro part hpart
  rw [List.mem_singleton.mp hpart]
  intro v hv
  obtain ⟨cls, hcls, rfl⟩ := List.mem_map.mp hv
  have there := (List.mem_filter.mp hcls).1
  have named : cls.name.isText = true :=
    texts.names _ (name_mem_names there List.mem_cons_self)
  have described : cls.description ∈ schema.descriptions :=
    description_mem_descriptions there List.mem_cons_self
  exact Bool.and_eq_true_iff.mpr
    ⟨Json.isScalar_of_isText named, isScalar_of_texts texts described⟩

end Parts
end Schema
end ClientBindings
