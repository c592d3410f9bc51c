import ClientBindings.Proofs.Bodies
import ClientBindings.Proofs.ClassOrder
import ClientBindings.Proofs.Completion
import ClientBindings.Proofs.Methods
import ClientBindings.Proofs.Texts

/-!
# UsedNames — what sources use of the shared source is declared there

Sources name exceptions and enumerations of the shared source.  The exceptions of a method are those
of every call and those that its message declares; the schema knows the latter, and the shared source
declares all errors of the schema.  An enumeration is registered wherever its name is written, with
the values that its document declares, and the shared source declares what is registered.

* `Source.MethodSource.ThrowsDeclared` — a method that throws what is declared, and says so;
* `Shared.EnumEntry.Declares` — the declaration of an enumeration under the name that sources use;
* `Run.NamesDeclared`, `Run.namesDeclared_of_run` — all names of a run that completes.

The enumeration of object kinds stands aside: its values are the classes, not those of a document.
-/

namespace ClientBindings

/-! ## Exceptions -/

namespace Source

open Emission

/-- The opening of a line about an exception. -/
def throwsOpening : String := " @throws "

/-- The exceptions that a method names are those of every call, and declared ones. -/
structure MethodSource.ThrowsDeclared (errors : List Shared.ErrorEntry) (m : MethodSource) :
    Prop where
  clause : ∀ name ∈ m.throws, name ∈ commonErrors.map Prod.fst ∨
    ∃ entry ∈ errors, name = "Types." ++ entry.className
  /-- The first line is the description, which is free text. -/
  comment : ∀ line ∈ m.doc.tail, ∀ rest, line = throwsOpening ++ rest →
    (∃ e ∈ commonErrors, rest = e.1 ++ " " ++ e.2) ∨
      ∃ entry ∈ errors, rest = "Types." ++ entry.className ++ " " ++ entry.description

/-- The entry of an error has the name and the description that methods write. -/
structure Presents (entry : Shared.ErrorEntry) (e : ErrorDef) : Prop where
  name : (exceptionName e).result = .ok ("Types." ++ entry.className)
  described : Comment.described e.description = .ok entry.description

theorem presents_of_errorEntry {e : ErrorDef} {entry : Shared.ErrorEntry}
    (h : Shared.errorEntry e = .ok entry) : Presents entry e := by
  rcases Except.bind_eq_ok.mp h with ⟨params, _, h⟩
  rcases Except.bind_eq_ok.mp h with ⟨description, hdescription, h⟩
  rcases Except.bind_eq_ok.mp h with ⟨name, hname, hreturn⟩
  cases hreturn
  refine ⟨?_, hdescription⟩
  exact result_bind_eq_ok.mpr ⟨name, hname, rfl⟩

/-- All errors of a schema are declared. -/
theorem exists_presents {errors : List ErrorDef} {entries : List Shared.ErrorEntry}
    (h : Shared.errorEntries errors = .ok entries) {e : ErrorDef} (he : e ∈ errors) :
    ∃ entry ∈ entries, Presents entry e := by
  rcases Except.bind_eq_ok.mp h with ⟨sorted, hsorted, hentries⟩
  have there : e ∈ sorted := by
    unfold Shared.sortedErrors at hsorted
    split at hsorted
    · rw [← Except.ok.inj hsorted]
      exact Shared.mem_sortedBy.mpr he
    · split at hsorted
      · rw [← Except.ok.inj hsorted]
        exact he
      · cases hsorted
  rcases Except.exists_of_mem_mapM hentries there with ⟨entry, hentry, declared⟩
  exact ⟨entry, hentry, presents_of_errorEntry declared⟩

/-! ### Lines of a comment -/

/-- How the lines of a comment open behind its description, up to those about exceptions. -/
def openings : List String :=
  [" Minimum allowed role: ", " First published in ", " Deprecated since ", " @deprecated since ",
    " @param ", " @return "]

theorem publishedInfo_opens {releases : List Release} {life : Lifecycle} {info : String}
    (h : (Comment.publishedInfo releases life).result = .ok info) (given : info ≠ "") :
    ∃ opening ∈ openings, ∃ text, " " ++ info = opening ++ text := by
  rcases publishedInfo_eq_ok h with ⟨first, last, hfirst, hlast, rfl⟩
  rcases sentence_eq_ok hfirst with ⟨_, rfl⟩ | ⟨_, name, _, rfl⟩
  · rcases sentence_eq_ok hlast with ⟨_, rfl⟩ | ⟨_, name, _, rfl⟩
    · exact absurd rfl given
    · refine ⟨" Deprecated since ", by decide, name.display ++ ".", ?_⟩
      simp [Text.joined, ← String.append_assoc]
  · refine ⟨" First published in ", by decide, ?_⟩
    rcases sentence_eq_ok hlast with ⟨_, rfl⟩ | ⟨_, later, _, rfl⟩
    · refine ⟨name.display ++ ".", ?_⟩
      simp [Text.joined, ← String.append_assoc]
    · refine ⟨name.display ++ "." ++ " " ++ "Deprecated since " ++ later.display ++ ".", ?_⟩
      simp [Text.joined, ← String.append_assoc]

theorem paramDoc_opens {s : Settings} {p : Param} {line : String}
    (h : (paramDoc s p).result = .ok line) : ∃ text, line = " @param " ++ text := by
  rcases paramDoc_eq_ok h with ⟨doc, info, _, _, rfl⟩
  simp only [String.append_assoc]
  exact ⟨_, rfl⟩

theorem returnDoc_opens {cls : ApiClass} {message : Message} {async : Bool} {lines : List String}
    (h : (returnDoc cls message async).result = .ok lines) {line : String} (hline : line ∈ lines) :
    ∃ text, line = " @return " ++ text := by
  rcases returnDoc_eq_ok h with ⟨_, rfl⟩ | ⟨_, _, rfl⟩ | ⟨_, answer, doc, _, _, rfl⟩
  · exact ⟨"Task", List.mem_singleton.mp hline⟩
  · cases hline
  · exact ⟨doc, List.mem_singleton.mp hline⟩

/-- The lines of a comment behind its description. -/
theorem DocParts.opens {s : Settings} {cls : ApiClass} {message : Message} {params : List Param}
    {async : Bool} {doc : List String} (parts : DocParts s cls message params async doc)
    {line : String} (hline : line ∈ doc.tail) :
    line = "" ∨ (∃ opening ∈ openings, ∃ text, line = opening ++ text) ∨
      (∃ e ∈ MethodSource.commonErrors, line = throwsOpening ++ (e.1 ++ " " ++ e.2)) ∨
      line ∈ parts.errors := by
  rw [parts.lines] at hline
  simp only [List.cons_append, List.nil_append, List.tail_cons, List.append_assoc, List.mem_cons,
    List.mem_append] at hline
  rcases hline with role | info | deprecated | blank | connection | param | returned | common | error
  · exact Or.inr (Or.inl ⟨_, by decide, _, role⟩)
  · by_cases empty : parts.info = ""
    · simp [empty] at info
    · rw [if_neg empty] at info
      have opens := publishedInfo_opens parts.published empty
      rw [← List.mem_singleton.mp info] at opens
      exact Or.inr (Or.inl opens)
  · by_cases given : parts.deprecated.truthy = true
    · rw [if_pos given] at deprecated
      exact Or.inr (Or.inl ⟨_, by decide, _, List.mem_singleton.mp deprecated⟩)
    · simp [given] at deprecated
  · exact Or.inl blank
  · exact Or.inr (Or.inl ⟨" @param ", by decide, "c The connection the call is made on", connection⟩)
  · rcases Except.exists_of_mem_of_mapM_eq_ok parts.paramDocs param with ⟨p, _, written⟩
    exact Or.inr (Or.inl ⟨" @param ", by decide, paramDoc_opens written⟩)
  · exact Or.inr (Or.inl ⟨" @return ", by decide, returnDoc_opens parts.returnDocs returned⟩)
  · rcases List.mem_map.mp common with ⟨e, he, rfl⟩
    exact Or.inr (Or.inr (Or.inl ⟨e, he, by simp [throwsOpening, String.append_assoc]⟩))
  · exact Or.inr (Or.inr (Or.inr error))

/-- No line but those about exceptions opens like one. -/
theorem openings_apart : ∀ opening ∈ openings,
    ¬(opening.toList <+: throwsOpening.toList ∨ throwsOpening.toList <+: opening.toList) := by
  decide

theorem line_of_throwsOpening {s : Settings} {cls : ApiClass} {message : Message}
    {params : List Param} {async : Bool} {doc : List String}
    (parts : DocParts s cls message params async doc) {line rest : String}
    (hline : line ∈ doc.tail) (opens : line = throwsOpening ++ rest) :
    (∃ e ∈ MethodSource.commonErrors, rest = e.1 ++ " " ++ e.2) ∨ line ∈ parts.errors := by
  rcases parts.opens hline with blank | ⟨opening, hopening, text, other⟩ | ⟨e, he, common⟩ | error
  · have filled := congrArg String.toList (blank.symm.trans opens)
    simp [throwsOpening] at filled
  · have comparable := Text.prefix_of_append_eq (other.symm.trans opens)
    exact absurd comparable (openings_apart opening hopening)
  · refine Or.inl ⟨e, he, ?_⟩
    exact (String.append_right_inj throwsOpening).mp (opens.symm.trans common)
  · exact Or.inr error

/-! ### Methods -/

/-- A message whose errors are declared has methods that throw what is declared. -/
theorem throwsDeclared_of_methodParts {s : Settings} {cls : ApiClass} {message : Message}
    {params : List Param} {async : Bool} {m : MethodSource}
    (parts : MethodParts s cls message params async m) {errors : List Shared.ErrorEntry}
    (declared : ∀ e ∈ message.errors, ∃ entry ∈ errors, Presents entry e) :
    m.ThrowsDeclared errors := by
  constructor
  · intro name hname
    rw [parts.throws] at hname
    rcases List.mem_append.mp hname with common | named
    · exact Or.inl common
    · rcases Except.exists_of_mem_of_mapM_eq_ok parts.named named with ⟨e, he, result⟩
      rcases declared e he with ⟨entry, hentry, presents⟩
      exact Or.inr ⟨entry, hentry, Except.ok.inj (result.symm.trans presents.name)⟩
  · intro line hline rest opens
    rcases line_of_throwsOpening parts.doc hline opens with common | error
    · exact Or.inl common
    · rcases Except.exists_of_mem_of_mapM_eq_ok parts.doc.errorDocs error with ⟨e, he, result⟩
      rcases declared e he with ⟨entry, hentry, presents⟩
      rcases errorDoc_eq_ok result with ⟨exception, description, hexception, hdescription, written⟩
      have name : exception = "Types." ++ entry.className :=
        Except.ok.inj (hexception.symm.trans presents.name)
      have meaning : description = entry.description :=
        Except.ok.inj (hdescription.symm.trans presents.described)
      refine Or.inr ⟨entry, hentry, ?_⟩
      have same : throwsOpening ++ rest = throwsOpening ++ (exception ++ " " ++ description) := by
        rw [← opens, written]
        simp [throwsOpening, String.append_assoc]
      rw [(String.append_right_inj throwsOpening).mp same, name, meaning]

end Source

/-! ## Enumerations -/

namespace Shared

/-- An entry declares an enumeration: under the name that sources use for it and for its default, and
with its values in order. -/
structure EnumEntry.Declares (entry : EnumEntry) (overrides : Overrides) (name : String)
    (values : List EnumValue) : Prop where
  javaType : (Ty.enum name values).javaType.result = .ok ("Types." ++ entry.className)
  default : ((Ty.enum name values).defaultValue overrides).result =
    .ok ("Types." ++ entry.className ++ "." ++ (overrides.get? name).getD Ty.unrecognized)
  values : values.map EnumValue.wire = entry.values.map fun constant => .text constant.wire

theorem wire_of_enumConstant {v : EnumValue} {constant : EnumConstant}
    (h : enumConstant v = .ok constant) : .text constant.wire = v.wire := by
  rcases Except.bind_eq_ok.mp h with ⟨description, _, h⟩
  rcases Except.bind_eq_ok.mp h with ⟨wire, hwire, hreturn⟩
  cases hreturn
  exact (Json.asText_eq_ok hwire).symm

theorem declares_of_enumEntry {name : String} {values : List EnumValue} {entry : EnumEntry}
    (h : enumEntry (name, values) = .ok entry) (overrides : Overrides) :
    entry.Declares overrides name values := by
  rcases Except.bind_eq_ok.mp h with ⟨constants, hconstants, hreturn⟩
  cases hreturn
  refine ⟨rfl, rfl, ?_⟩
  exact (Except.map_eq_of_mapM_eq_ok _ _ (fun _ _ => wire_of_enumConstant) hconstants).symm

/-- All enumerations of a snapshot have an entry. -/
theorem exists_enumEntry {snapshot : Snapshot} {entries : List EnumEntry}
    (h : enumEntries snapshot = .ok entries) {name : String} {values : List EnumValue}
    (there : snapshot.enums.get? name = some values) :
    ∃ entry ∈ entries, enumEntry (name, values) = .ok entry := by
  have listed : (name, values) ∈ sortedBy Prod.fst snapshot.enums :=
    mem_sortedBy.mpr (Table.mem_of_lookup_eq_some there)
  exact Except.exists_of_mem_mapM h listed

/-- All enumerations of a snapshot are declared. -/
theorem exists_declares {snapshot : Snapshot} {entries : List EnumEntry}
    (h : enumEntries snapshot = .ok entries) {name : String} {values : List EnumValue}
    (there : snapshot.enums.get? name = some values) (overrides : Overrides) :
    ∃ entry ∈ entries, entry.Declares overrides name values := by
  rcases exists_enumEntry h there with ⟨entry, hentry, declared⟩
  exact ⟨entry, hentry, declares_of_enumEntry declared overrides⟩

end Shared

/-! ## Whole runs -/

namespace Run

/-- The names of the shared source that the sources of a schema use are declared. -/
structure NamesDeclared (c : Config) (document : Json) (schema : Schema)
    (d : Shared.Declarations) : Prop where
  /-- Every class has a source, and its methods throw what is declared. -/
  exceptions : ∀ cls ∈ schema.classes, ∃ source, sourceOf c schema cls = .ok source ∧
    ∀ m ∈ source.methods, m.ThrowsDeclared d.errors
  /-- An enumeration that is mentioned at any depth is declared with the values of the document. -/
  enums : ∀ root, schema.Mentions root → ∀ name values, .enum name values ∈ root.parts →
    name ≠ objectKindsName →
      (∃ defs, Document.definitions document = .ok defs ∧ defs.enums.get? name = some values) ∧
      ∃ entry ∈ d.enums, entry.Declares c.overrides name values

variable {c : Config} {document : Json} {schema : Schema} {summary : Summary}

/-- Every name of the shared source that a source uses is declared there, if the run completes. -/
theorem namesDeclared_of_run (parsed : Schema.ofDocument document = .ok schema)
    (completed : (run c schema).result = .ok summary) :
    NamesDeclared c document schema summary.declarations := by
  rcases exists_completion completed with ⟨done⟩
  rcases Shared.declarations_eq_ok done.declared with ⟨herrors, henums, _⟩
  constructor
  · intro cls hcls
    rcases Except.exists_of_mem_mapM done.generated hcls with ⟨source, _, hsource⟩
    refine ⟨source, hsource, ?_⟩
    rcases Source.exists_classParts (Emission.result_of_settled hsource) with ⟨parts⟩
    intro m hm
    rcases parts.mem_methods_iff.mp hm with ⟨message, hmessage, params, _, async, _, result⟩
    rcases Source.exists_methodParts result with ⟨method⟩
    apply Source.throwsDeclared_of_methodParts method
    intro e he
    exact Source.exists_presents herrors
      (Schema.errors_mem_of_ofDocument parsed hcls hmessage he)
  · intro root mentioned name values hpart other
    have used : schema.Uses (.enum name values) :=
      ⟨root, Schema.mem_rootTypes.mpr mentioned, hpart⟩
    rcases Schema.uses_iff.mp used with kinds | ⟨cls, hcls, ty, hty, part⟩
    · exact absurd (Ty.enum.inj kinds).1 other
    · constructor
      · rcases Schema.declared_of_ofDocument parsed with ⟨defs, hdefs, known⟩
        exact ⟨defs, hdefs, (known cls hcls ty hty _ part).1⟩
      · have registered := get?_enums_of_mentioned parsed done.classes ⟨cls, hcls, ty, hty, part⟩
        exact Shared.exists_declares henums registered c.overrides

end Run

/-! ## A document whose sources use the shared one -/

namespace Sample

/-- A field with an enumeration inside a set, and a message that may fail. -/
def guarded : Json :=
  .object [
    ("enums", .object [("power_state", .list [.text "halted", .text "running"])]),
    ("errors", .list [
      .object [("name", .text "HANDLE_INVALID"), ("description", .text "No such object.")]]),
    ("classes", .list [
      .object [
        ("name", .text "vm"),
        ("fields", .list [typed "allowed" "map<string, set<enum<power_state>>>"]),
        ("messages", .list [
          .object [
            ("name", .text "start"),
            ("errors", .list [.text "HANDLE_INVALID"])]])]])]

/-- What the shared source declares, by name. -/
def declaredNames (summary : Summary) : List String × List String :=
  (summary.declarations.errors.map Shared.ErrorEntry.className,
    summary.declarations.enums.map Shared.EnumEntry.className)

set_option maxRecDepth 20000 in
theorem declaredNames_guarded :
    ((Run.finished? config guarded).any fun (_, summary) =>
      declaredNames summary = (["HandleInvalid"], ["XenAPIObjects", "PowerState"])) = true := by
  decide +kernel

end Sample

namespace Run

theorem namesDeclared_of_run_guarded :
    ∃ schema summary, Schema.ofDocument Sample.guarded = .ok schema ∧
      (run Sample.config schema).result = .ok summary ∧
      Sample.declaredNames summary = (["HandleInvalid"], ["XenAPIObjects", "PowerState"]) ∧
      NamesDeclared Sample.config Sample.guarded schema summary.declarations := by
  rcases (Option.any_eq_true _ _).mp Sample.declaredNames_guarded with
    ⟨⟨schema, summary⟩, finished, names⟩
  rcases of_finished?_eq_some finished with ⟨parsed, completed⟩
  exact ⟨schema, summary, parsed, completed, of_decide_eq_true names,
    namesDeclared_of_run parsed completed⟩

end Run
end ClientBindings
