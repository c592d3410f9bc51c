import ClientBindings.Proofs.Presentable

/-!
# Referents — what the names in a document stand for

A document refers to its declarations by name: types to enumerations and to scalar kinds, messages to
errors.  Reading it puts what is declared in place of the names, so a schema holds it wherever the
document named it: in a field under any groups, in a parameter or in an answer, at any depth of a
type.  A name that nothing stands behind ends the reading, so no schema comes out of such a document.

The values of an enumeration are compared with the document itself, not with what was read of it.  A
document declares one list of values for a name, and so types that share the name share the values.

* `Document.DeclaresValue`, `Document.DeclaresEnum` — what a document declares;
* `Document.declares_of_definitions` — what is read of its enumerations;
* `Schema.Holds` — the types that a schema holds;
* `Schema.Closed`, `Schema.closed_of_ofDocument` — a schema without dangling names.
-/

namespace ClientBindings

/-! ## Declared enumerations -/

namespace Document

/-- An entry of an enumeration and the value that it declares: a text alone, or a value with its
description. -/
inductive DeclaresValue : Json → EnumValue → Prop where
  | alone (wire : String) : DeclaresValue (.text wire) ⟨.text wire, .text ""⟩
  | described {pair wire meaning : Json} : pair.isText = false →
      pair.elements? = some [wire, meaning] → DeclaresValue pair ⟨wire, meaning⟩

/-- A document that declares an enumeration, with its values in order. -/
def DeclaresEnum (document : Json) (name : String) (values : List EnumValue) : Prop :=
  ∃ enums given entries, document.get? "enums" = some enums ∧ enums.get? name = some given ∧
    given.elements? = some entries ∧ List.Forall₂ DeclaresValue entries values

variable {document : Json} {name : String} {values : List EnumValue}

theorem value_eq_of_declares {entry : Json} {v w : EnumValue} (h : DeclaresValue entry v)
    (h' : DeclaresValue entry w) : v = w := by
  cases h with
  | alone wire =>
    cases h' with
    | alone => rfl
    | described unlike => cases unlike
  | described unlike elements =>
    cases h' with
    | alone => cases unlike
    | described _ others =>
      cases Option.some.inj (elements.symm.trans others)
      rfl

/-- A document declares one list of values for a name. -/
theorem values_eq_of_declares {others : List EnumValue} (h : DeclaresEnum document name values)
    (h' : DeclaresEnum document name others) : values = others := by
  rcases h with ⟨enums, given, entries, henums, hgiven, hentries, declared⟩
  rcases h' with ⟨_, _, _, henums', hgiven', hentries', declared'⟩
  cases Option.some.inj (henums.symm.trans henums')
  cases Option.some.inj (hgiven.symm.trans hgiven')
  cases Option.some.inj (hentries.symm.trans hentries')
  have unique : Relator.RightUnique DeclaresValue := fun _ _ _ => value_eq_of_declares
  exact List.right_unique_forall₂' unique declared declared'

theorem declaresValue_of_enumValue? {entry : Json} {v : EnumValue} (h : enumValue? entry = some v) :
    DeclaresValue entry v := by
  unfold enumValue? at h
  split at h
  · cases h
    exact .alone _
  · next unlike =>
    split at h
    · next wire meaning elements =>
      cases h
      have pair : entry.isText = false := by
        cases entry with
        | text s => exact absurd rfl (unlike s)
        | _ => rfl
      exact .described pair elements
    · cases h

theorem declaresValues_of_enum? {given : Json} (h : enum? given = some values) :
    ∃ entries, given.elements? = some entries ∧ List.Forall₂ DeclaresValue entries values := by
  rcases Option.bind_eq_some_iff.mp h with ⟨entries, hentries, declared⟩
  refine ⟨entries, hentries, (Option.mapM_eq_some.mp declared).imp ?_⟩
  intro entry v made
  exact declaresValue_of_enumValue? made

/-- Reading keeps the names of the enumerations. -/
theorem enums?_eq_some {enums : Table (List EnumValue)} (h : enums? document = some enums) :
    ∃ members, (document.get? "enums").getD (.object []) = .object members ∧
      List.Forall₂ (fun (old : String × Json) (new : String × List EnumValue) =>
        old.1 = new.1 ∧ enum? old.2 = some new.2) members enums := by
  unfold enums? at h
  split at h
  · next members hmembers =>
    refine ⟨members, hmembers, (Option.mapM_eq_some.mp h).imp ?_⟩
    intro old new made
    rcases Option.map_eq_some_iff.mp made with ⟨read, hread, rfl⟩
    exact ⟨rfl, hread⟩
  · cases h

/-- What is read of the enumerations is what the document declares. -/
theorem declares_of_enums? {enums : Table (List EnumValue)} (h : enums? document = some enums)
    (found : enums.get? name = some values) : DeclaresEnum document name values := by
  rcases enums?_eq_some h with ⟨members, hmembers, named⟩
  rcases Table.exists_get?_of_forall₂ (R := fun old new => enum? old = some new) named found with
    ⟨given, there, read⟩
  rcases declaresValues_of_enum? read with ⟨entries, hentries, declared⟩
  refine ⟨.object members, given, entries, ?_, there, hentries, declared⟩
  -- A document that leaves the enumerations out has none that could have been found.
  cases listed : document.get? "enums" with
  | some enums => simpa [listed] using hmembers
  | none =>
    have empty : members = [] := by simpa [listed, eq_comm] using hmembers
    simp [empty, Table.get?] at there

theorem declares_of_definitions {defs : Definitions} (h : definitions document = .ok defs)
    (found : defs.enums.get? name = some values) : DeclaresEnum document name values :=
  declares_of_enums? (definitions_eq_ok h).1 found

end Document

/-! ## Schemas -/

namespace Schema

/-- The types that a schema holds: those of its fields, under any groups, of parameters and of
answers. -/
inductive Holds (schema : Schema) : Ty → Prop where
  | field {cls : ApiClass} {leaf : Leaf} : cls ∈ schema.classes → leaf ∈ cls.leaves →
      schema.Holds leaf.field.ty
  | param {cls : ApiClass} {m : Message} {param : Param} : cls ∈ schema.classes →
      m ∈ cls.messages → param ∈ m.params → schema.Holds param.ty
  | answer {cls : ApiClass} {m : Message} {answer : Answer} : cls ∈ schema.classes →
      m ∈ cls.messages → m.answer = some answer → schema.Holds answer.ty

/-- A schema that holds what the names in its document stand for. -/
structure Closed (document : Json) (schema : Schema) : Prop where
  /-- Errors of messages are errors of the schema. -/
  errors : ∀ cls ∈ schema.classes, ∀ m ∈ cls.messages, ∀ e ∈ m.errors, e ∈ schema.errors
  /-- Messages know their class. -/
  owners : ∀ cls ∈ schema.classes, ∀ m ∈ cls.messages, m.cls = cls.name
  scalars : ∀ ty, schema.Holds ty → ∀ kind, .primitive kind ∈ ty.parts →
    kind ∈ ["string", "secret_string", "int", "float", "bool", "datetime"]
  /-- Enumerations are declared, with the values that they carry. -/
  enums : ∀ ty, schema.Holds ty → ∀ name values, .enum name values ∈ ty.parts →
    Document.DeclaresEnum document name values
  /-- Enumerations of one name are the same. -/
  agree : ∀ ty ty', schema.Holds ty → schema.Holds ty' → ∀ name values others,
    .enum name values ∈ ty.parts → .enum name others ∈ ty'.parts → values = others

variable {document : Json} {schema : Schema}

theorem exists_mem_types_of_holds {ty : Ty} (h : schema.Holds ty) :
    ∃ cls ∈ schema.classes, ty ∈ cls.types := by
  cases h with
  | field hcls hleaf => exact ⟨_, hcls, ApiClass.leaf_mem_types hleaf⟩
  | param hcls hm hparam =>
    exact ⟨_, hcls, ApiClass.message_mem_types hm (Message.mem_types.mpr (Or.inr ⟨_, hparam, rfl⟩))⟩
  | answer hcls hm hanswer =>
    exact ⟨_, hcls, ApiClass.message_mem_types hm (Message.mem_types.mpr (Or.inl ⟨_, hanswer, rfl⟩))⟩

/-- Messages are read together with the name of their class. -/
theorem owner_of_ofDocument (parsed : ofDocument document = .ok schema) {cls : ApiClass}
    (hcls : cls ∈ schema.classes) {m : Message} (hm : m ∈ cls.messages) : m.cls = cls.name := by
  rcases ofDocument_eq_ok parsed with ⟨defs, _, _, classes⟩
  rcases Except.exists_of_mem_of_mapM_eq_ok classes hcls with ⟨item, _, read⟩
  rcases Document.apiClass_eq_ok read with ⟨_, _, messages⟩
  rcases Except.exists_of_mem_of_mapM_eq_ok messages hm with ⟨entry, _, hentry⟩
  exact (Document.message_eq_ok hentry).1

/-- Reading a document looks up every name in it. -/
theorem closed_of_ofDocument (parsed : ofDocument document = .ok schema) :
    schema.Closed document := by
  rcases declared_of_ofDocument parsed with ⟨defs, hdefs, known⟩
  have held : ∀ {ty : Ty}, schema.Holds ty → ty.Known defs.enums := by
    intro ty h
    rcases exists_mem_types_of_holds h with ⟨cls, hcls, hty⟩
    exact known cls hcls ty hty
  -- The table that was read is a means only: what it holds is what the document declares.
  have declares : ∀ ty, schema.Holds ty → ∀ name values, .enum name values ∈ ty.parts →
      Document.DeclaresEnum document name values := by
    intro ty h name values hpart
    exact Document.declares_of_definitions hdefs (held h _ hpart).1
  refine ⟨?_, ?_, ?_, declares, ?_⟩
  · intro cls hcls m hm e he
    exact errors_mem_of_ofDocument parsed hcls hm he
  · intro cls hcls m hm
    exact owner_of_ofDocument parsed hcls hm
  · intro ty h kind hpart
    rcases Ty.hasScalars_of_known (held h) kind hpart with ⟨s, rfl⟩
    cases s <;> decide
  · intro ty ty' h h' name values others hvalues hothers
    exact Document.values_eq_of_declares (declares ty h name values hvalues)
      (declares ty' h' name others hothers)

end Schema

namespace Sample

/-- A document that names one enumeration in a field under two groups, in a parameter and in an
answer. -/
def lookups : Json :=
  .object [
    ("enums", .object [
      ("power_state", .list [.text "halted", .list [.text "running", .text "It runs."]])]),
    ("errors", .list [.object [("name", .text "VM_BAD_STATE"), ("params", .list [.text "vm"])]]),
    ("classes", .list [
      .object [
        ("name", .text "vm"),
        ("fields", .list [
          .object [("namespace", .text "guest"), ("fields", .list [
            .object [("namespace", .text "os"), ("fields", .list [
              typed "states" "map<string, set<enum<power_state>>>"])]])]]),
        ("messages", .list [
          .object [
            ("name", .text "start"),
            ("params", .list [typed "from" "option<enum<power_state>>"]),
            ("result", .object [("type", .text "enum<power_state>")]),
            ("errors", .list [.text "VM_BAD_STATE"])]])]])]

/-- Its enumeration. -/
def powerState : Ty :=
  .enum "power_state" [⟨.text "halted", .text ""⟩, ⟨.text "running", .text "It runs."⟩]

/-- The types that its class mentions. -/
def lookupTypes : List Ty :=
  [.map (.scalar .string) (.set powerState), powerState, .option powerState]

set_option maxRecDepth 20000 in
theorem ofDocument_lookups :
    ∃ schema, Schema.ofDocument lookups = .ok schema ∧
      schema.classes.flatMap ApiClass.types = lookupTypes := by
  decide +kernel

end Sample

namespace Schema

theorem closed_of_ofDocument_lookups :
    ∃ schema, ofDocument Sample.lookups = .ok schema ∧
      schema.classes.flatMap ApiClass.types = Sample.lookupTypes ∧ schema.Closed Sample.lookups := by
  rcases Sample.ofDocument_lookups with ⟨schema, parsed, types⟩
  exact ⟨schema, parsed, types, closed_of_ofDocument parsed⟩

end Schema
end ClientBindings
