import ClientBindings.Proofs.Grammar

/-!
# Writing — a schema as a document

A schema is written as a document that spells everything out: every member of every object is there,
groups are nested, types have their usual spelling, messages name their errors, and the enumerations
stand in a table of their own.  Reading such a document gives the schema back, lists in their order.

* `Schema.document` — the document of a schema over a table of enumerations;
* `Schema.Writable` — a schema whose types can be spelled and whose messages fit their class;
* `Document.nodes_toJsons`, `Document.message_toJson`, `Document.apiClass_toJson` — each part is read
  as it was written;
* `Schema.ofDocument_document` — so is the schema.
-/

namespace ClientBindings

/-! ## Documents -/

namespace Lifecycle

def toJson (life : Lifecycle) : Json :=
  .object [("state", life.state), ("published", life.published), ("deprecated", life.deprecated)]

end Lifecycle

def Field.toJson (f : Field) : Json :=
  .object [("name", f.name), ("type", .text f.ty.spelling), ("description", f.description),
    ("lifecycle", f.lifecycle.toJson)]

mutual

/-- A field, or a group with its fields inside it. -/
def FieldNode.toJson : FieldNode → Json
  | .leaf field => field.toJson
  | .group name contents => .object [("namespace", name), ("fields", .list (toJsons contents))]
termination_by structural node => node

def toJsons : List FieldNode → List Json
  | [] => []
  | node :: rest => node.toJson :: toJsons rest
termination_by structural nodes => nodes

end

def Param.toJson (p : Param) : Json :=
  .object [("name", p.name), ("type", .text p.ty.spelling), ("description", p.description),
    ("optional", .bool p.optional), ("lifecycle", p.lifecycle.toJson)]

def Answer.toJson (a : Answer) : Json :=
  .object [("type", .text a.ty.spelling), ("description", a.description)]

/-- A message, which names its errors. -/
def Message.toJson (m : Message) : Json :=
  .object [("name", m.name), ("description", m.description),
    ("params", .list (m.params.map Param.toJson)),
    ("result", (m.answer.map Answer.toJson).getD .null),
    ("session", .bool m.needsSession), ("async", .bool m.isAsync), ("static", .bool m.isStatic),
    ("errors", .list (m.errors.map ErrorDef.name)), ("lifecycle", m.lifecycle.toJson),
    ("min_role", m.minRole)]

def ApiClass.toJson (c : ApiClass) : Json :=
  .object [("name", c.name), ("description", c.description), ("fields", .list (toJsons c.contents)),
    ("messages", .list (c.messages.map Message.toJson)), ("lifecycle", c.lifecycle.toJson)]

def ErrorDef.toJson (e : ErrorDef) : Json :=
  .object [("name", e.name), ("params", .list e.params), ("description", e.description)]

def Release.toJson (r : Release) : Json :=
  .object [("code_name", r.codeName), ("branding", r.branding), ("version", .text r.version)]

def EnumValue.toJson (v : EnumValue) : Json :=
  .list [v.wire, v.description]

/-- The document of a schema over a table of enumerations. -/
def Schema.document (enums : Table (List EnumValue)) (schema : Schema) : Json :=
  .object [
    ("enums", .object (enums.map fun e => (e.1, .list (e.2.map EnumValue.toJson)))),
    ("errors", .list (schema.errors.map ErrorDef.toJson)),
    ("classes", .list (schema.classes.map ApiClass.toJson)),
    ("releases", .list (schema.releases.map Release.toJson))]

/-! ## Schemas that can be written -/

/-- A message of a class: it belongs to the class, its errors are declared, and its types can be
spelled. -/
structure Message.Writable (enums : Table (List EnumValue)) (errors : List ErrorDef)
    (cls : ApiClass) (m : Message) : Prop where
  owner : m.cls = cls.name
  declared : ∀ e ∈ m.errors, e ∈ errors
  spellable : ∀ ty ∈ m.types, ty.Spellable enums

/-- A schema over a table of enumerations that can be written down: names of enumerations and errors
are distinct, types can be spelled, and messages fit their class. -/
structure Schema.Writable (enums : Table (List EnumValue)) (schema : Schema) : Prop where
  enumNames : enums.names.Nodup
  /-- An error is looked up by its name, which any scalar can be. -/
  errorNames : ∀ e ∈ schema.errors, e.name.isScalar = true
  distinct : schema.errors.Pairwise fun e f => e.name.sameName f.name = false
  leaves : ∀ cls ∈ schema.classes, ∀ leaf ∈ cls.leaves, leaf.field.ty.Spellable enums
  messages : ∀ cls ∈ schema.classes, ∀ m ∈ cls.messages, m.Writable enums schema.errors cls

instance (enums : Table (List EnumValue)) (errors : List ErrorDef) (cls : ApiClass) (m : Message) :
    Decidable (m.Writable enums errors cls) :=
  decidable_of_iff
    (m.cls = cls.name ∧ (∀ e ∈ m.errors, e ∈ errors) ∧ ∀ ty ∈ m.types, ty.Spellable enums)
    ⟨fun h => ⟨h.1, h.2.1, h.2.2⟩, fun h => ⟨h.owner, h.declared, h.spellable⟩⟩

instance (enums : Table (List EnumValue)) (schema : Schema) : Decidable (schema.Writable enums) :=
  decidable_of_iff
    (enums.names.Nodup ∧ (∀ e ∈ schema.errors, e.name.isScalar = true) ∧
      schema.errors.Pairwise (fun e f => e.name.sameName f.name = false) ∧
      (∀ cls ∈ schema.classes, ∀ leaf ∈ cls.leaves, leaf.field.ty.Spellable enums) ∧
      ∀ cls ∈ schema.classes, ∀ m ∈ cls.messages, m.Writable enums schema.errors cls)
    ⟨fun h => ⟨h.1, h.2.1, h.2.2.1, h.2.2.2.1, h.2.2.2.2⟩,
      fun h => ⟨h.enumNames, h.errorNames, h.distinct, h.leaves, h.messages⟩⟩

namespace Document

/-! ## Members of an object -/

theorem memberOrNull_of_get? {members : List (String × Json)} {key : String} {v : Json}
    (h : (Json.object members).get? key = some v) :
    memberOrNull (.object members) key = .ok v := by
  have found : member? (.object members) key = .ok (some v) := congrArg Except.ok h
  exact Except.bind_eq_ok.mpr ⟨_, found, rfl⟩

/-! ## Fields -/

theorem lifecycle_of_get? {members : List (String × Json)} {life : Lifecycle}
    (h : (Json.object members).get? "lifecycle" = some life.toJson) :
    lifecycle (.object members) = .ok life :=
  Except.bind_eq_ok.mpr ⟨_, memberOrNull_of_get? h, rfl⟩

variable {defs : Definitions}

theorem type_spelling (distinct : defs.enums.names.Nodup) {ty : Ty} (h : ty.Spellable defs.enums) :
    type defs (.text ty.spelling) = .ok ty :=
  Ty.ofText_spelling distinct h

theorem field_toJson (distinct : defs.enums.names.Nodup) {f : Field}
    (h : f.ty.Spellable defs.enums) : field defs f.toJson = .ok f := by
  refine Except.bind_eq_ok.mpr ⟨f.name, rfl, ?_⟩
  refine Except.bind_eq_ok.mpr ⟨.text f.ty.spelling, rfl, ?_⟩
  refine Except.bind_eq_ok.mpr ⟨f.ty, type_spelling distinct h, ?_⟩
  exact Except.bind_eq_ok.mpr ⟨f.lifecycle, lifecycle_of_get? rfl, rfl⟩

/-- One entry of a field tree: a group where it has a `namespace`, a field otherwise. -/
def node (defs : Definitions) (entry : Json) : Read FieldNode := do
  match ← member? entry "namespace" with
  | none => return .leaf (← field defs entry)
  | some name =>
    match entry.get? "fields" with
    | none => return .group name []
    | some fields => return .group name (← nodes defs fields)

theorem nodes_list (items : List Json) : nodes defs (.list items) = items.mapM (node defs) := by
  rw [nodes]
  refine (List.mapM_subtype (g := node defs) ?_).trans (by simp)
  intro entry _
  dsimp only
  unfold node
  congr 1
  funext name
  cases name with
  | none => rfl
  | some name =>
    simp only
    split <;> simp_all

mutual

theorem node_toJson (distinct : defs.enums.names.Nodup) (groups : List Json) (n : FieldNode)
    (h : ∀ leaf ∈ n.leavesUnder groups, leaf.field.ty.Spellable defs.enums) :
    node defs n.toJson = .ok n := by
  cases n with
  | leaf f =>
    have hf : f.ty.Spellable defs.enums := h ⟨groups ++ [f.name], f⟩ List.mem_cons_self
    exact Except.bind_eq_ok.mpr ⟨none, rfl, Except.bind_eq_ok.mpr ⟨f, field_toJson distinct hf, rfl⟩⟩
  | group name contents =>
    have inner : nodes defs (.list (toJsons contents)) = .ok contents := by
      rw [nodes_list]
      exact mapM_toJsons distinct (groups ++ [name]) contents h
    exact Except.bind_eq_ok.mpr ⟨some name, rfl, Except.bind_eq_ok.mpr ⟨contents, inner, rfl⟩⟩

theorem mapM_toJsons (distinct : defs.enums.names.Nodup) (groups : List Json)
    (contents : List FieldNode)
    (h : ∀ leaf ∈ leavesOf groups contents, leaf.field.ty.Spellable defs.enums) :
    (toJsons contents).mapM (node defs) = .ok contents := by
  cases contents with
  | nil => rfl
  | cons n rest =>
    have first := node_toJson distinct groups n fun leaf hleaf =>
      h leaf (List.mem_append_left _ hleaf)
    have others := mapM_toJsons distinct groups rest fun leaf hleaf =>
      h leaf (List.mem_append_right _ hleaf)
    exact Except.mapM_eq_ok.mpr (.cons first (Except.mapM_eq_ok.mp others))

end

/-- A field tree is read as it was written, at every depth. -/
theorem nodes_toJsons (distinct : defs.enums.names.Nodup) {contents : List FieldNode}
    (h : ∀ leaf ∈ leavesOf [] contents, leaf.field.ty.Spellable defs.enums) :
    nodes defs (.list (toJsons contents)) = .ok contents := by
  rw [nodes_list]
  exact mapM_toJsons distinct [] contents h

/-! ## Messages -/

/-- A list that is written item by item is read item by item. -/
theorem mapM_map_eq_pure {m : Type → Type} [Monad m] [LawfulMonad m] {α β : Type} {write : α → β}
    {read : β → m α} {items : List α} (h : ∀ a ∈ items, read (write a) = pure a) :
    (items.map write).mapM read = pure items := by
  induction items with
  | nil => rfl
  | cons a rest ih =>
    have first : read (write a) = pure a := h a List.mem_cons_self
    have others := ih fun b hb => h b (List.mem_cons_of_mem _ hb)
    simp only [List.map_cons, List.mapM_cons, first, others, pure_bind]

theorem param_toJson (distinct : defs.enums.names.Nodup) {p : Param}
    (h : p.ty.Spellable defs.enums) : param defs p.toJson = .ok p := by
  refine Except.bind_eq_ok.mpr ⟨p.name, rfl, ?_⟩
  refine Except.bind_eq_ok.mpr ⟨.text p.ty.spelling, rfl, ?_⟩
  refine Except.bind_eq_ok.mpr ⟨p.ty, type_spelling distinct h, ?_⟩
  exact Except.bind_eq_ok.mpr ⟨p.lifecycle, lifecycle_of_get? rfl, rfl⟩

theorem answer_of_get? (distinct : defs.enums.names.Nodup) {members : List (String × Json)}
    {given : Option Answer} (h : ∀ a ∈ given, a.ty.Spellable defs.enums)
    (found : (Json.object members).get? "result" = some ((given.map Answer.toJson).getD .null)) :
    answer defs (.object members) = .ok given := by
  have result : member? (.object members) "result" = .ok (some ((given.map Answer.toJson).getD .null)) :=
    congrArg Except.ok found
  refine Except.bind_eq_ok.mpr ⟨_, result, ?_⟩
  cases given with
  | none => rfl
  | some a =>
    refine Except.bind_eq_ok.mpr ⟨.text a.ty.spelling, rfl, ?_⟩
    exact Except.bind_eq_ok.mpr ⟨a.ty, type_spelling distinct (h a rfl), rfl⟩

/-- Where the declared names are distinct, a declared error is found by its name. -/
theorem error?_of_mem (distinct : defs.errors.Pairwise fun e f => e.name.sameName f.name = false)
    {e : ErrorDef} (h : e ∈ defs.errors) : defs.error? e.name = some e :=
  find?_of_mem distinct h

theorem declaredError_name (distinct : defs.errors.Pairwise fun e f => e.name.sameName f.name = false)
    {e : ErrorDef} (h : e ∈ defs.errors) (scalar : e.name.isScalar = true) (cls message : Json) :
    declaredError defs cls message e.name = .ok e := by
  simp only [declaredError, scalar, error?_of_mem distinct h]
  rfl

theorem message_toJson (enumNames : defs.enums.names.Nodup)
    (distinct : defs.errors.Pairwise fun e f => e.name.sameName f.name = false)
    (scalar : ∀ e ∈ defs.errors, e.name.isScalar = true) {cls : ApiClass} {m : Message}
    (h : m.Writable defs.enums defs.errors cls) : message defs cls.name m.toJson = .ok m := by
  have spellable := h.spellable
  have hanswer : answer defs m.toJson = .ok m.answer := by
    refine answer_of_get? enumNames ?_ rfl
    intro a ha
    refine spellable a.ty (List.mem_append_left _ ?_)
    simp [Option.mem_def.mp ha]
  have herrors : (m.errors.map ErrorDef.name).mapM (declaredError defs cls.name m.toJson) =
      .ok m.errors :=
    mapM_map_eq_pure fun e he => declaredError_name distinct (h.declared e he)
      (scalar e (h.declared e he)) _ _
  have hparams : (m.params.map Param.toJson).mapM (param defs) = .ok m.params := by
    refine mapM_map_eq_pure fun p hp => param_toJson enumNames ?_
    exact spellable p.ty (List.mem_append_right _ (List.mem_map_of_mem hp))
  refine Except.bind_eq_ok.mpr ⟨m.answer, hanswer, ?_⟩
  refine Except.bind_eq_ok.mpr ⟨some (.list (m.errors.map ErrorDef.name)), rfl, ?_⟩
  refine Except.bind_eq_ok.mpr ⟨m.errors.map ErrorDef.name, rfl, ?_⟩
  refine Except.bind_eq_ok.mpr ⟨m.errors, herrors, ?_⟩
  refine Except.bind_eq_ok.mpr ⟨m.name, rfl, ?_⟩
  refine Except.bind_eq_ok.mpr ⟨m.params.map Param.toJson, rfl, ?_⟩
  refine Except.bind_eq_ok.mpr ⟨m.params, hparams, ?_⟩
  refine Except.bind_eq_ok.mpr ⟨m.lifecycle, lifecycle_of_get? rfl, ?_⟩
  rw [← h.owner]
  rfl

theorem apiClass_toJson (enumNames : defs.enums.names.Nodup)
    (distinct : defs.errors.Pairwise fun e f => e.name.sameName f.name = false)
    (scalar : ∀ e ∈ defs.errors, e.name.isScalar = true) {cls : ApiClass}
    (leaves : ∀ leaf ∈ cls.leaves, leaf.field.ty.Spellable defs.enums)
    (messages : ∀ m ∈ cls.messages, m.Writable defs.enums defs.errors cls) :
    apiClass defs cls.toJson = .ok cls := by
  have hmessages : (cls.messages.map Message.toJson).mapM (message defs cls.name) =
      .ok cls.messages :=
    mapM_map_eq_pure fun m hm => message_toJson enumNames distinct scalar (messages m hm)
  refine Except.bind_eq_ok.mpr ⟨cls.name, rfl, ?_⟩
  refine Except.bind_eq_ok.mpr ⟨some (.list (toJsons cls.contents)), rfl, ?_⟩
  refine Except.bind_eq_ok.mpr ⟨cls.contents, nodes_toJsons enumNames leaves, ?_⟩
  refine Except.bind_eq_ok.mpr ⟨cls.messages.map Message.toJson, rfl, ?_⟩
  refine Except.bind_eq_ok.mpr ⟨cls.messages, hmessages, ?_⟩
  exact Except.bind_eq_ok.mpr ⟨cls.lifecycle, lifecycle_of_get? rfl, rfl⟩

/-! ## Definitions -/

theorem enum?_toJson (values : List EnumValue) :
    enum? (.list (values.map EnumValue.toJson)) = some values :=
  mapM_map_eq_pure fun _ _ => rfl

theorem enums?_document (enums : Table (List EnumValue)) (schema : Schema) :
    enums? (schema.document enums) = some enums := by
  have each : ∀ e ∈ enums, (enum? (.list (e.2.map EnumValue.toJson))).map (e.1, ·) = some e := by
    intro e _
    rw [enum?_toJson]
    rfl
  have members : (enums.map fun e => (e.1, Json.list (e.2.map EnumValue.toJson))).mapM
      (fun m => (enum? m.2).map (m.1, ·)) = some enums := mapM_map_eq_pure each
  exact members

theorem errorDef?_toJson {e : ErrorDef} (scalar : e.name.isScalar = true) :
    errorDef? e.toJson = some e :=
  if_pos scalar

theorem enterError_of_fresh {errors : List ErrorDef} {e : ErrorDef}
    (fresh : ∀ f ∈ errors, f.name.sameName e.name = false) :
    enterError errors e = errors ++ [e] := by
  induction errors with
  | nil => rfl
  | cons f rest ih =>
    have first : f.name.sameName e.name = false := fresh f List.mem_cons_self
    have others := ih fun g hg => fresh g (List.mem_cons_of_mem _ hg)
    simp [enterError, first, others]

/-- Errors of distinct names are entered in their order. -/
theorem foldl_enterError {before errors : List ErrorDef}
    (distinct : (before ++ errors).Pairwise fun e f => e.name.sameName f.name = false) :
    errors.foldl enterError before = before ++ errors := by
  induction errors generalizing before with
  | nil => simp
  | cons e rest ih =>
    have fresh : ∀ f ∈ before, f.name.sameName e.name = false := fun f hf =>
      (List.pairwise_append.mp distinct).2.2 f hf e List.mem_cons_self
    rw [List.foldl_cons, enterError_of_fresh fresh, ih (by simpa using distinct)]
    simp

theorem definitions_document {enums : Table (List EnumValue)} {schema : Schema}
    (h : schema.Writable enums) :
    definitions (schema.document enums) = .ok ⟨enums, schema.errors⟩ := by
  have items : (schema.errors.map ErrorDef.toJson).mapM errorDef? = some schema.errors :=
    mapM_map_eq_pure fun e he => errorDef?_toJson (h.errorNames e he)
  have errors : errors? (schema.document enums) = some schema.errors := by
    have entered : schema.errors.foldl enterError [] = schema.errors := foldl_enterError h.distinct
    calc errors? (schema.document enums)
        = ((schema.errors.map ErrorDef.toJson).mapM errorDef?).bind fun errors =>
            some (errors.foldl enterError []) := rfl
      _ = some schema.errors := by simp only [items, Option.bind_some, entered]
  have declared := enums?_document enums schema
  obtain ⟨members, object⟩ : ∃ members, schema.document enums = .object members := ⟨_, rfl⟩
  rw [object] at declared errors ⊢
  simp only [definitions, declared, errors]

theorem release_toJson (r : Release) : release r.toJson = .ok r :=
  rfl

end Document

/-! ## Schemas -/

/-- A schema is read back from its document, with every list in its order. -/
theorem Schema.ofDocument_document {enums : Table (List EnumValue)} {schema : Schema}
    (h : schema.Writable enums) : ofDocument (schema.document enums) = .ok schema := by
  have classes : (schema.classes.map ApiClass.toJson).mapM
      (Document.apiClass ⟨enums, schema.errors⟩) = .ok schema.classes :=
    Document.mapM_map_eq_pure fun cls hcls =>
      Document.apiClass_toJson h.enumNames h.distinct h.errorNames (h.leaves cls hcls)
        (h.messages cls hcls)
  have releases : (schema.releases.map Release.toJson).mapM Document.release =
      .ok schema.releases :=
    Document.mapM_map_eq_pure fun r _ => Document.release_toJson r
  refine Except.bind_eq_ok.mpr ⟨_, Document.definitions_document h, ?_⟩
  refine Except.bind_eq_ok.mpr ⟨schema.classes.map ApiClass.toJson, rfl, ?_⟩
  refine Except.bind_eq_ok.mpr ⟨schema.classes, classes, ?_⟩
  refine Except.bind_eq_ok.mpr ⟨schema.releases.map Release.toJson, rfl, ?_⟩
  exact Except.bind_eq_ok.mpr ⟨schema.releases, releases, rfl⟩

namespace Sample

/-- Enumerations of a pool of hosts. -/
def powers : Table (List EnumValue) :=
  [("power state", [⟨.text "on", .text "Running"⟩, ⟨.text "off", .null⟩]), ("empty", [])]

def usual : Lifecycle :=
  ⟨.text "published", .text "rio", .null⟩

def lost : ErrorDef :=
  ⟨.text "LOST", [.text "host"], .text ""⟩

def denied : ErrorDef :=
  ⟨.text "DENIED", [], .text "Not allowed"⟩

/-- The state of every host, by the sets of references to them. -/
def states : Ty :=
  .map (.set (.ref "host"))
    (.map (.scalar .int) (.option (.enum "power state"
      [⟨.text "on", .text "Running"⟩, ⟨.text "off", .null⟩])))

/-- A message that answers with a map, and reports its errors in another order than the schema. -/
def shutdown : Message where
  cls := .text "pool"
  name := .text "shutdown"
  params := [⟨.text "hosts", .set (.ref "host"), .text "", false, usual⟩,
    ⟨.text "force", .scalar .bool, .null, true, ⟨.text "removed", .null, .text "rio"⟩⟩]
  answer := some ⟨states, .text ""⟩
  description := .text "Stop hosts"
  needsSession := false
  isAsync := true
  isStatic := true
  errors := [denied, lost]
  lifecycle := usual
  minRole := .text "pool-admin"

/-- A pool with a group inside a group. -/
def pool : ApiClass where
  name := .text "pool"
  description := .null
  contents := [.leaf ⟨.text "uuid", .scalar .string, .text "", usual⟩,
    .group (.text "hosts") [.group (.text "known") [],
      .leaf ⟨.text "states", states, .text "", usual⟩]]
  messages := [shutdown]
  lifecycle := usual

def pools : Schema :=
  ⟨[pool], [lost, denied], [⟨.text "rio", .text "Rio", "1.0"⟩]⟩

end Sample

theorem Schema.ofDocument_document_pools :
    Sample.pools.Writable Sample.powers ∧
      ofDocument (Sample.pools.document Sample.powers) = .ok Sample.pools :=
  ⟨by decide +kernel, ofDocument_document (by decide +kernel)⟩

end ClientBindings
