import ClientBindings.Proofs.Entries
import ClientBindings.Proofs.Texts
import Mathlib.Data.List.Induction

/-!
# Exceptions — the errors of a document in the shared source

A document may define an error more than once.  The last definition of a name counts, at the place of
the first, and every message that lists the name holds it.  The shared source sorts the errors by
name, so that neither order nor repetition shows: there is one exception for each name, and its fields
are filled from the parameters by position.

Which definition counts is said in terms of the document itself: it is the first that a search from
the end of the list meets.

* `Document.lastDefinition?`, `Document.Defines` — the definition that counts, and what it says;
* `Document.find?_entered`, `Document.pairwise_entered` — definitions that are put in;
* `Document.Stands`, `Document.stands_of_error?` — an error as it is defined last;
* `Shared.Positional`, `Shared.positional_errorParams` — fields filled by position;
* `ErrorsDeclared`, `Schema.exists_errorsDeclared` — the errors of a parsed document.
-/

namespace ClientBindings

/-! ## Putting definitions in -/

namespace Json

theorem sameName_iff {j k : Json} : j.sameName k = true ↔ j.canonical = k.canonical :=
  decide_eq_true_iff

/-- Values of one name have the same names. -/
theorem sameName_congr {j k : Json} (h : j.sameName k = true) (name : Json) :
    j.sameName name = k.sameName name := by
  rw [sameName, sameName, sameName_iff.mp h]

end Json

namespace Document

variable {errors : List ErrorDef} {e f : ErrorDef}

/-- A definition is found by its name, in the place of one that had the name. -/
theorem find?_enterError (errors : List ErrorDef) (e : ErrorDef) (name : Json) :
    (enterError errors e).find? (fun d => d.name.sameName name) =
      if e.name.sameName name then some e else errors.find? fun d => d.name.sameName name := by
  induction errors with
  | nil => rw [enterError, List.find?_singleton, List.find?_nil]
  | cons other rest ih =>
    by_cases same : other.name.sameName e.name = true
    · -- Whatever finds the error whose place is taken finds the definition.
      rw [enterError, if_pos same, List.find?_cons, List.find?_cons, Json.sameName_congr same]
      cases e.name.sameName name <;> rfl
    · rw [enterError, if_neg same, List.find?_cons, List.find?_cons, ih]
      cases first : other.name.sameName name with
      | false => rfl
      | true =>
        -- The first error is found, and the definition would be too if it had the name.
        have apart : e.name.sameName name ≠ true := by
          intro there
          apply same
          rw [Json.sameName_iff] at first there ⊢
          exact first.trans there.symm
        simp [apart]

theorem mem_enterError (h : f ∈ enterError errors e) : f = e ∨ f ∈ errors := by
  induction errors with
  | nil => exact Or.inl (List.mem_singleton.mp h)
  | cons other rest ih =>
    rw [enterError] at h
    split at h
    · exact (List.mem_cons.mp h).imp_right (List.mem_cons_of_mem _)
    · rcases List.mem_cons.mp h with rfl | later
      · exact Or.inr List.mem_cons_self
      · exact (ih later).imp_right (List.mem_cons_of_mem _)

/-- Errors keep distinct names. -/
theorem pairwise_enterError (distinct : errors.Pairwise fun e f => e.name.sameName f.name = false)
    (e : ErrorDef) : (enterError errors e).Pairwise fun e f => e.name.sameName f.name = false := by
  induction errors with
  | nil => exact List.pairwise_singleton _ _
  | cons other rest ih =>
    rcases List.pairwise_cons.mp distinct with ⟨first, later⟩
    by_cases same : other.name.sameName e.name = true
    · -- The rest is apart from the error whose place is taken, and so from the definition.
      rw [enterError, if_pos same]
      refine List.pairwise_cons.mpr ⟨?_, later⟩
      intro f hf
      exact (Json.sameName_congr same f.name).symm.trans (first f hf)
    · rw [enterError, if_neg same]
      refine List.pairwise_cons.mpr ⟨?_, ih later⟩
      intro f hf
      rcases mem_enterError hf with rfl | old
      · exact Bool.eq_false_iff.mpr same
      · exact first f old

/-- What is found by a name after some definitions are put in is the last of them.  The definition
that is put in last is the one that a search from the end meets first, so the induction is from the
end. -/
theorem find?_entered (definitions : List ErrorDef) (name : Json) :
    (definitions.foldl enterError []).find? (fun d => d.name.sameName name) =
      definitions.reverse.find? fun d => d.name.sameName name := by
  induction definitions using List.reverseRecOn with
  | nil => rfl
  | append_singleton before e ih =>
    rw [List.foldl_append, List.foldl_cons, List.foldl_nil, find?_enterError, ih,
      List.reverse_concat, List.find?_cons]
    cases e.name.sameName name <;> rfl

theorem pairwise_entered (definitions : List ErrorDef) :
    (definitions.foldl enterError []).Pairwise fun e f => e.name.sameName f.name = false := by
  induction definitions using List.reverseRecOn with
  | nil => exact List.Pairwise.nil
  | append_singleton before e ih =>
    rw [List.foldl_append]
    exact pairwise_enterError ih e

/-! ## The definition that counts -/

/-- What the definition of an error says, in texts. -/
structure Defines (item : Json) (name : String) (params : List String) (meaning : String) : Prop where
  named : item.get? "name" = some (.text name)
  filled : valuesUnder item "params" = params.map .text
  described : description item = .text meaning

/-- A document that defines its errors in texts. -/
def DefinesInTexts (document : Json) : Prop :=
  ∀ item ∈ listed document "errors", ∃ name params meaning, Defines item name params meaning

/-- The last definition of a name. -/
def lastDefinition? (document : Json) (name : String) : Option Json :=
  (listed document "errors").reverse.find? fun item => item.get? "name" = some (.text name)

/-- An error as the last definition of its name has it. -/
def Stands (document : Json) (name : String) (e : ErrorDef) : Prop :=
  ∃ item params meaning, lastDefinition? document name = some item ∧
    Defines item name params meaning ∧ e = ⟨.text name, params.map .text, .text meaning⟩

theorem name_of_stands {document : Json} {name : String} {e : ErrorDef}
    (h : Stands document name e) : e.name = .text name := by
  rcases h with ⟨_, _, _, _, _, rfl⟩
  rfl

/-- An error that is read from a definition. -/
def ReadFrom (item : Json) (e : ErrorDef) : Prop :=
  ∃ name params meaning, Defines item name params meaning ∧
    e = ⟨.text name, params.map .text, .text meaning⟩

variable {document : Json} {defs : Definitions}

theorem errorDef?_of_defines {item : Json} {name meaning : String} {params : List String}
    (h : Defines item name params meaning) (read : errorDef? item = some e) :
    e = ⟨.text name, params.map .text, .text meaning⟩ := by
  rcases Option.bind_eq_some_iff.mp read with ⟨given, hgiven, read⟩
  rcases Option.bind_eq_some_iff.mp read with ⟨values, hvalues, read⟩
  have named : given = .text name := Option.some.inj (hgiven.symm.trans h.named)
  have filled : values = params.map .text := by
    rw [← h.filled, valuesUnder, hvalues]
    rfl
  rw [named, filled, h.described] at read
  exact (Option.some.inj read).symm

/-- The errors of a document are read from its definitions, which are put in one after the other. -/
theorem exists_read_of_definitions (defined : definitions document = .ok defs) :
    ∃ read, List.Forall₂ (fun item e => errorDef? item = some e) (listed document "errors") read ∧
      defs.errors = read.foldl enterError [] := by
  rcases Option.bind_eq_some_iff.mp (definitions_eq_ok defined).2 with ⟨items, hitems, h⟩
  rcases Option.bind_eq_some_iff.mp h with ⟨read, hread, h⟩
  have same : listed document "errors" = items := by
    rw [listed, hitems]
    rfl
  exact ⟨read, same ▸ Option.mapM_eq_some.mp hread, (Option.some.inj h).symm⟩

theorem distinct_of_definitions (defined : definitions document = .ok defs) :
    defs.errors.Pairwise fun e f => e.name.sameName f.name = false := by
  rcases exists_read_of_definitions defined with ⟨read, _, entered⟩
  rw [entered]
  exact pairwise_entered read

theorem exists_readFrom (defined : definitions document = .ok defs)
    (texts : DefinesInTexts document) :
    ∃ read, List.Forall₂ ReadFrom (listed document "errors") read ∧
      defs.errors = read.foldl enterError [] := by
  rcases exists_read_of_definitions defined with ⟨read, each, entered⟩
  refine ⟨read, ?_, entered⟩
  refine ((List.forall₂_and_left _ _).mpr ⟨texts, each⟩).imp ?_
  rintro item e ⟨⟨name, params, meaning, defines⟩, made⟩
  exact ⟨name, params, meaning, defines, errorDef?_of_defines defines made⟩

/-- Looking up a name leads to its last definition. -/
theorem rel_lastDefinition? (defined : definitions document = .ok defs)
    (texts : DefinesInTexts document) (name : String) :
    Option.Rel ReadFrom (lastDefinition? document name) (defs.error? (.text name)) := by
  rcases exists_readFrom defined texts with ⟨read, each, entered⟩
  rw [Definitions.error?, entered, find?_entered]
  refine rel_find? (List.forall₂_reverse_iff.mpr each) ?_
  rintro item e ⟨other, params, meaning, defines, rfl⟩
  rw [defines.named, Bool.eq_iff_iff, Json.sameName_text, decide_eq_true_iff]
  simp

theorem exists_lastDefinition_of_error? (defined : definitions document = .ok defs)
    (texts : DefinesInTexts document) {name : String} (found : defs.error? (.text name) = some e) :
    ∃ item, lastDefinition? document name = some item ∧ ReadFrom item e := by
  have last := rel_lastDefinition? defined texts name
  rw [found] at last
  cases definition : lastDefinition? document name with
  | none =>
    rw [definition] at last
    cases last
  | some item =>
    rw [definition, Option.rel_some_some] at last
    exact ⟨item, rfl, last⟩

theorem exists_error?_of_lastDefinition (defined : definitions document = .ok defs)
    (texts : DefinesInTexts document) {name : String} {item : Json}
    (definition : lastDefinition? document name = some item) :
    ∃ e, defs.error? (.text name) = some e := by
  have last := rel_lastDefinition? defined texts name
  rw [definition] at last
  cases found : defs.error? (.text name) with
  | none =>
    rw [found] at last
    cases last
  | some e => exact ⟨e, rfl⟩

/-- Only definitions in texts are put in, so what finds one of them is a text. -/
theorem exists_text_of_error? (defined : definitions document = .ok defs)
    (texts : DefinesInTexts document) {name : Json} (found : defs.error? name = some e) :
    ∃ s, name = .text s ∧ e.name = .text s := by
  have matched : e.name.sameName name = true :=
    List.find?_some (p := fun d : ErrorDef => d.name.sameName name) found
  rcases exists_readFrom defined texts with ⟨read, each, entered⟩
  rw [Definitions.error?, entered, find?_entered] at found
  have inside : e ∈ read := List.mem_reverse.mp (List.mem_of_find?_eq_some found)
  rcases exists_related_of_mem each.flip inside with ⟨_, _, s, _, _, _, shape⟩
  have named : e.name = .text s := congrArg ErrorDef.name shape
  refine ⟨s, ?_, named⟩
  apply Json.eq_of_canonical_eq_text
  rw [← Json.sameName_iff.mp matched, named, Json.canonical_text]

/-- Errors that are found stand as they are defined last. -/
theorem stands_of_error? (defined : definitions document = .ok defs)
    (texts : DefinesInTexts document) {name : Json} (found : defs.error? name = some e) :
    ∃ s, name = .text s ∧ Stands document s e := by
  rcases exists_text_of_error? defined texts found with ⟨s, rfl, named⟩
  rcases exists_lastDefinition_of_error? defined texts found with
    ⟨item, last, other, params, meaning, defines, shape⟩
  have same : s = other := Json.text.inj (named.symm.trans (congrArg ErrorDef.name shape))
  exact ⟨s, rfl, item, params, meaning, last, same ▸ defines, same ▸ shape⟩

theorem stands_of_mem (defined : definitions document = .ok defs) (texts : DefinesInTexts document)
    (he : e ∈ defs.errors) : ∃ name, Stands document name e := by
  have found : defs.error? e.name = some e := find?_of_mem (distinct_of_definitions defined) he
  rcases stands_of_error? defined texts found with ⟨name, _, stands⟩
  exact ⟨name, stands⟩

/-- The errors have the names that the document lists. -/
theorem exists_error_iff (defined : definitions document = .ok defs) (texts : DefinesInTexts document)
    {name : String} :
    (∃ e ∈ defs.errors, e.name = .text name) ↔
      ∃ item ∈ listed document "errors", item.get? "name" = some (.text name) := by
  constructor
  · rintro ⟨e, he, named⟩
    rcases stands_of_mem defined texts he with ⟨other, stands⟩
    have same : name = other := Json.text.inj (named.symm.trans (name_of_stands stands))
    rcases stands with ⟨item, _, _, last, defines, _⟩
    have inside : item ∈ listed document "errors" :=
      List.mem_reverse.mp (List.mem_of_find?_eq_some last)
    exact ⟨item, inside, same ▸ defines.named⟩
  · rintro ⟨item, hitem, named⟩
    -- This definition need not be the one that counts, but then another one does.
    have there : (lastDefinition? document name).isSome = true :=
      List.find?_isSome.mpr ⟨item, List.mem_reverse.mpr hitem, decide_eq_true named⟩
    rcases Option.isSome_iff_exists.mp there with ⟨final, last⟩
    rcases exists_error?_of_lastDefinition defined texts last with ⟨e, found⟩
    rcases exists_text_of_error? defined texts found with ⟨s, same, named⟩
    exact ⟨e, List.mem_of_find?_eq_some found, named.trans same.symm⟩

/-- A message that holds the errors that it lists, as they are defined last. -/
def HoldsListed (document item : Json) (m : Message) : Prop :=
  List.Forall₂ (fun given e => ∃ name, given = .text name ∧ Stands document name e)
    (valuesUnder item "errors") m.errors

theorem holdsListed_of_message (defined : definitions document = .ok defs)
    (texts : DefinesInTexts document) {cls item : Json} {m : Message}
    (read : message defs cls item = .ok m) : HoldsListed document item m := by
  rcases message_eq_ok read with ⟨_, _, errors, _⟩
  refine (Except.mapM_eq_ok.mp errors).imp ?_
  intro given e declared
  exact stands_of_error? defined texts (declaredError_eq_ok declared)

end Document

/-! ## Entries -/

namespace Shared

/-- Fields that are filled from parameters, each from the one in its place; the final one is marked. -/
structure Positional (params : List String) (fields : List ErrorParam) : Prop where
  count : fields.length = params.length
  filled : ∀ i param, params[i]? = some param →
    fields[i]? = some (ErrorParam.mk (Naming.errorFieldName param) i (i + 1 = params.length))

theorem positional_errorParams (params : List String) : Positional params (errorParams params) := by
  constructor
  · rw [errorParams, List.length_map, List.length_zipIdx]
  · intro i param given
    have place : params.zipIdx[i]? = some (param, i) := by
      rw [List.getElem?_zipIdx, given, Option.map_some, Nat.zero_add]
    rw [errorParams, List.getElem?_map, place, Option.map_some]

theorem errorEntry_of_texts (name meaning : String) (params : List String) :
    errorEntry ⟨.text name, params.map .text, .text meaning⟩ =
      .ok ⟨name, Comment.escape meaning, Naming.exceptionCase name, errorParams params⟩ := by
  have values : (params.map Json.text).mapM Json.asText = .ok params := by
    rw [Except.mapM_eq_ok, List.forall₂_map_left_iff]
    exact List.forall₂_same.mpr fun _ _ => rfl
  rw [errorEntry, values]
  rfl

/-- The name of an error as it is written, by which errors are sorted. -/
def writtenName (e : ErrorDef) : String :=
  e.name.display

/-- An entry that declares an error as it is defined last. -/
def DeclaresLast (document : Json) (entry : ErrorEntry) : Prop :=
  ∃ item params meaning, Document.lastDefinition? document entry.name = some item ∧
    Document.Defines item entry.name params meaning ∧ Positional params entry.params ∧
      entry.description = Comment.escape meaning ∧
        entry.className = Naming.exceptionCase entry.name

section Entries

variable {document : Json} {errors : List ErrorDef}

theorem exists_errorEntry_of_stands {name : String} {e : ErrorDef}
    (h : Document.Stands document name e) :
    ∃ entry, errorEntry e = .ok entry ∧ entry.name = writtenName e ∧
      DeclaresLast document entry := by
  rcases h with ⟨item, params, meaning, last, defines, rfl⟩
  exact ⟨_, errorEntry_of_texts name meaning params, rfl,
    item, params, meaning, last, defines, positional_errorParams params, rfl, rfl⟩

/-- Names in texts are as distinct as they are written. -/
theorem nodup_writtenNames (named : ∀ e ∈ errors, e.name = .text (writtenName e))
    (distinct : errors.Pairwise fun e f => e.name.sameName f.name = false) :
    (errors.map writtenName).Nodup := by
  refine List.pairwise_map.mpr (distinct.imp_of_mem ?_)
  intro e f he hf apart same
  rw [named e he, named f hf, same] at apart
  exact absurd (Json.sameName_text.mpr rfl) (Bool.eq_false_iff.mp apart)

/-- Errors that stand as they are defined last have entries, in strict order of their names. -/
theorem exists_errorEntries (stands : ∀ e ∈ errors, ∃ name, Document.Stands document name e)
    (distinct : errors.Pairwise fun e f => e.name.sameName f.name = false) :
    ∃ entries, errorEntries errors = .ok entries ∧
      (entries.map ErrorEntry.name).Pairwise (· < ·) ∧
      (∀ name, name ∈ entries.map ErrorEntry.name ↔ ∃ e ∈ errors, e.name = .text name) ∧
      ∀ entry ∈ entries, DeclaresLast document entry := by
  have named : ∀ e ∈ errors, e.name = .text (writtenName e) := by
    intro e he
    rcases stands e he with ⟨name, last⟩
    rw [writtenName, Document.name_of_stands last]
    rfl
  have sorted : sortedErrors errors = .ok (sortedBy writtenName errors) := by
    apply sortedErrors_of_texts
    intro e he
    rw [named e he]
    rfl
  have each : ∀ e ∈ sortedBy writtenName errors, ∃ entry, errorEntry e = .ok entry ∧
      entry.name = writtenName e ∧ DeclaresLast document entry := by
    intro e he
    rcases stands e (mem_sortedBy.mp he) with ⟨_, last⟩
    exact exists_errorEntry_of_stands last
  rcases Except.exists_mapM_eq_ok each with ⟨entries, completed, related⟩
  -- Entries keep the order of the errors, so what sorting says of names holds of theirs.
  have names : entries.map ErrorEntry.name = (sortedBy writtenName errors).map writtenName :=
    map_eq_map_of_forall₂ related fun _ _ h => h.1
  refine ⟨entries, Except.bind_eq_ok.mpr ⟨_, sorted, completed⟩, ?_, ?_, ?_⟩
  · rw [names]
    exact pairwise_names_sortedBy (nodup_writtenNames named distinct)
  · intro name
    rw [names, List.mem_map]
    constructor
    · rintro ⟨e, he, rfl⟩
      have there := mem_sortedBy.mp he
      exact ⟨e, there, named e there⟩
    · rintro ⟨e, he, hname⟩
      have written : writtenName e = name := Json.text.inj ((named e he).symm.trans hname)
      exact ⟨e, mem_sortedBy.mpr he, written⟩
  · intro entry hentry
    rcases exists_related_of_mem related.flip hentry with ⟨_, _, _, last⟩
    exact last

end Entries
end Shared

/-! ## Parsed documents -/

/-- The errors of a document in the shared source and in the messages of its classes. -/
structure ErrorsDeclared (document : Json) (schema : Schema) (entries : List Shared.ErrorEntry) :
    Prop where
  sorted : (entries.map Shared.ErrorEntry.name).Pairwise (· < ·)
  names : ∀ name, name ∈ entries.map Shared.ErrorEntry.name ↔
    ∃ item ∈ Document.listed document "errors", item.get? "name" = some (.text name)
  last : ∀ entry ∈ entries, Shared.DeclaresLast document entry
  /-- Classes and messages stand in the order of the document. -/
  held : List.Forall₂ (fun item (cls : ApiClass) =>
      List.Forall₂ (Document.HoldsListed document) (Document.listed item "messages") cls.messages)
    (Document.listed document "classes") schema.classes

/-- A document that defines its errors in texts has one exception for each name among them, which
says what the last definition of the name does. -/
theorem Schema.exists_errorsDeclared {document : Json} {schema : Schema}
    (parsed : ofDocument document = .ok schema) (texts : Document.DefinesInTexts document) :
    ∃ entries, Shared.errorEntries schema.errors = .ok entries ∧
      ErrorsDeclared document schema entries := by
  rcases ofDocument_eq_ok parsed with ⟨defs, defined, same, classes⟩
  have stands : ∀ e ∈ defs.errors, ∃ name, Document.Stands document name e := fun e =>
    Document.stands_of_mem defined texts
  rcases Shared.exists_errorEntries stands (Document.distinct_of_definitions defined) with
    ⟨entries, made, sorted, names, last⟩
  rw [same]
  refine ⟨entries, made, sorted, ?_, last, ?_⟩
  · intro name
    rw [names, Document.exists_error_iff defined texts]
  · refine (Except.mapM_eq_ok.mp classes).imp ?_
    intro item cls read
    rcases Document.apiClass_eq_ok read with ⟨_, _, messages⟩
    refine (Except.mapM_eq_ok.mp messages).imp ?_
    intro entry m hm
    exact Document.holdsListed_of_message defined texts hm

namespace Sample

/-- A definition of an error that says everything. -/
def definition (name : String) (params : List String) (meaning : String) : Json :=
  .object [("name", .text name), ("params", .list (params.map .text)),
    ("description", .text meaning)]

theorem defines_definition (name : String) (params : List String) (meaning : String) :
    Document.Defines (definition name params meaning) name params meaning :=
  ⟨rfl, rfl, rfl⟩

/-- A document that defines an error again, with other parameters. -/
def redefined : Json :=
  .object [
    ("errors", .list [definition "VM_BAD_STATE" ["vm"] "Wrong state.",
      definition "HANDLE_INVALID" ["class", "handle"] "No such object.",
      definition "VM_BAD_STATE" ["vm", "expected value", "actual value"] "Not in a state to <start>."]),
    ("classes", .list [
      .object [
        ("name", .text "vm"),
        ("messages", .list [
          .object [("name", .text "start"),
            ("errors", .list [.text "VM_BAD_STATE", .text "VM_BAD_STATE"])]])]])]

theorem definesInTexts_redefined : Document.DefinesInTexts redefined := by
  intro item hitem
  have listed : item ∈ [definition "VM_BAD_STATE" ["vm"] "Wrong state.",
      definition "HANDLE_INVALID" ["class", "handle"] "No such object.",
      definition "VM_BAD_STATE" ["vm", "expected value", "actual value"]
        "Not in a state to <start>."] := hitem
  simp only [List.mem_cons, List.not_mem_nil, or_false] at listed
  rcases listed with rfl | rfl | rfl
  all_goals exact ⟨_, _, _, defines_definition _ _ _⟩

set_option maxRecDepth 20000 in
theorem ofDocument_redefined : ∃ schema, Schema.ofDocument redefined = .ok schema := by
  decide +kernel

end Sample

theorem Schema.exists_errorsDeclared_redefined :
    ∃ schema, ofDocument Sample.redefined = .ok schema ∧ Document.DefinesInTexts Sample.redefined ∧
      ∃ entries, Shared.errorEntries schema.errors = .ok entries ∧
        ErrorsDeclared Sample.redefined schema entries := by
  rcases Sample.ofDocument_redefined with ⟨schema, parsed⟩
  exact ⟨schema, parsed, Sample.definesInTexts_redefined,
    exists_errorsDeclared parsed Sample.definesInTexts_redefined⟩

end ClientBindings
