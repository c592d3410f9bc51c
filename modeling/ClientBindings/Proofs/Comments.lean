import ClientBindings.Proofs.Closing
import ClientBindings.Proofs.Members

/-!
# Comments — what ends the comments of a source

Descriptions are escaped, so nothing in them ends the comment around them.  Other texts are put in
as they are: the names of releases, of parameters and of exceptions, the least role, and the type of
an answer that has no description.  No end comes about where two pieces meet, so a comment is closed
early exactly if one of these texts holds the end of a comment.

* `ApiClass.looseTexts` — what is put into the comments of a class unescaped;
* `Source.DocParts.clean_iff` — the comment of a method;
* `Source.ClassSource.Sealed`, `Source.sealed_iff_loose` — when all comments of a source are sealed;
* `Source.not_sealed_of_role` — a role that closes the comment of a method.
-/

namespace ClientBindings
namespace Comment

/-! ## Releases -/

/-- What a release is called in comments. -/
def shownRelease (releases : List Release) (codeName : Json) : String :=
  (((releases.reverse.find? fun r => r.codeName.sameName codeName).map Release.branding).getD
    codeName).display

theorem display_of_branding {releases : List Release} {codeName name : Json}
    (h : (branding releases codeName).result = .ok name) :
    name.display = shownRelease releases codeName := by
  unfold branding at h
  unfold shownRelease
  split at h
  · cases h
  · cases found : releases.reverse.find? fun r => r.codeName.sameName codeName with
    | none =>
      simp only [found] at h
      rw [← Except.ok.inj h]
      rfl
    | some r =>
      simp only [found] at h
      rw [← Except.ok.inj h]
      rfl

end Comment

/-- The names of releases that a comment shows. -/
def Lifecycle.looseTexts (life : Lifecycle) (releases : List Release) : List String :=
  ([life.published, life.deprecated].filter Json.truthy).map (Comment.shownRelease releases)

namespace Comment

variable {releases : List Release} {life : Lifecycle}

theorem closes_sentence_iff {opening : String} {release : Json} {sentences : List String}
    (clean : ¬Closes opening) (last : opening.toList.getLast? ≠ some '*')
    (h : (sentence releases opening release).result = .ok sentences) :
    (∃ text ∈ sentences, Closes text) ↔
      release.truthy = true ∧ Closes (shownRelease releases release) := by
  rcases Source.sentence_eq_ok h with ⟨unset, rfl⟩ | ⟨given, name, branded, rfl⟩
  · simp [unset]
  · have shown : Closes (opening ++ name.display ++ ".") ↔
        Closes (shownRelease releases release) := by
      calc Closes (opening ++ name.display ++ ".")
          ↔ Closes (opening ++ name.display) := closes_before (by decide) (by decide)
        _ ↔ Closes name.display := closes_behind clean last
        _ ↔ Closes (shownRelease releases release) := by rw [display_of_branding branded]
    simpa [given] using shown

/-- A note about releases shows their names and nothing else. -/
theorem closes_publishedInfo_iff {info : String}
    (h : (publishedInfo releases life).result = .ok info) :
    Closes info ↔ ∃ text ∈ life.looseTexts releases, Closes text := by
  rcases Source.publishedInfo_eq_ok h with ⟨first, last, hfirst, hlast, rfl⟩
  have published := closes_sentence_iff (by decide) (by decide) hfirst
  have deprecated := closes_sentence_iff (by decide) (by decide) hlast
  calc Closes (Text.joined " " (first ++ last))
      ↔ ∃ text ∈ first ++ last, Closes text :=
        closes_joined_iff (by decide) (by decide) (by decide) (by decide)
    _ ↔ (∃ text ∈ first, Closes text) ∨ ∃ text ∈ last, Closes text := by
        simp only [List.mem_append, or_and_right, exists_or]
    _ ↔ life.published.truthy = true ∧ Closes (shownRelease releases life.published) ∨
          life.deprecated.truthy = true ∧ Closes (shownRelease releases life.deprecated) :=
        or_congr published deprecated
    _ ↔ ∃ text ∈ life.looseTexts releases, Closes text := by
        simp [Lifecycle.looseTexts, or_and_right, exists_or, and_assoc]

/-- A note that is empty has no line. -/
theorem clean_info_iff {opening info : String} (plain : ¬Closes opening)
    (last : opening.toList.getLast? ≠ some '*')
    (h : (publishedInfo releases life).result = .ok info) :
    (∀ line ∈ if info = "" then [] else [opening ++ info], ¬Closes line) ↔
      ∀ text ∈ life.looseTexts releases, ¬Closes text := by
  have shown : ¬Closes info ↔ ∀ text ∈ life.looseTexts releases, ¬Closes text := by
    rw [closes_publishedInfo_iff h]
    simp
  rw [← shown]
  by_cases empty : info = ""
  · have clean : ¬Closes "" := by decide
    simp [empty, clean]
  · have behind : Closes (opening ++ info) ↔ Closes info := closes_behind plain last
    simp [empty, behind]

/-- The note at the end of a line, if there is one. -/
theorem closes_noted_iff {line info : String} :
    Closes (line ++ if info = "" then "" else " " ++ info) ↔ Closes line ∨ Closes info := by
  by_cases empty : info = ""
  · have clean : ¬Closes "" := by decide
    simp [empty, clean]
  · rw [if_neg empty, ← String.append_assoc]
    exact closes_spaced

/-- The release of deprecation is among those that the note shows. -/
theorem closes_deprecatedRelease {release : Json}
    (h : (deprecatedRelease releases life).result = .ok release) (closes : Closes release.display) :
    ∃ text ∈ life.looseTexts releases, Closes text := by
  unfold deprecatedRelease at h
  cases given : life.deprecated.truthy with
  | true =>
    simp only [given, if_true] at h
    rw [display_of_branding h] at closes
    refine ⟨_, List.mem_map_of_mem (List.mem_filter.mpr ⟨?_, given⟩), closes⟩
    exact List.mem_cons_of_mem _ List.mem_cons_self
  | false =>
    simp only [given, Bool.false_eq_true, if_false] at h
    split at h
    · rw [← Except.ok.inj h] at closes
      exact absurd closes (by decide)
    · rw [← Except.ok.inj h] at closes
      exact absurd closes (by decide)

end Comment

/-! ## Methods -/

/-- What the comment of a parameter shows unescaped. -/
def Param.looseTexts (p : Param) (releases : List Release) : List String :=
  p.memberName :: p.lifecycle.looseTexts releases

/-- The type of an answer that has no description. -/
def Message.looseReturn (m : Message) (cls : ApiClass) : List String :=
  match m.answer with
  | none => []
  | some answer =>
    if answer.description.truthy then [] else (Source.returnType cls m).result.toOption.toList

/-- What the comment of a method shows unescaped. -/
def Message.looseTexts (m : Message) (s : Settings) (cls : ApiClass) (params : List Param)
    (async : Bool) : List String :=
  [m.minRole.display] ++ m.lifecycle.looseTexts s.releases ++
    params.flatMap (Param.looseTexts · s.releases) ++
    (if async then [] else m.looseReturn cls) ++
    m.errors.map fun e => Naming.exceptionCase e.name.display

/-- What the comments of a class, of its record and of its methods show unescaped. -/
def ApiClass.looseTexts (cls : ApiClass) (s : Settings) : List String :=
  cls.lifecycle.looseTexts s.releases ++
    cls.leaves.flatMap (fun leaf => leaf.field.lifecycle.looseTexts s.releases) ++
    cls.messages.flatMap fun m => m.looseTexts s cls m.params false

namespace Source

open Comment Emission

variable {s : Settings} {cls : ApiClass} {message : Message} {params : List Param} {async : Bool}

theorem closes_describedOr {description : Json} {otherwise : Emission String} {text : String}
    (h : (describedOr description otherwise).result = .ok text) (closes : Closes text) :
    description.truthy = false ∧ otherwise.result = .ok text := by
  unfold describedOr at h
  cases given : description.truthy with
  | true =>
    simp only [given, if_true] at h
    exact absurd closes (not_closes_described h)
  | false =>
    simp only [given, Bool.false_eq_true, if_false] at h
    exact ⟨rfl, h⟩

theorem closes_paramDoc_iff {p : Param} {line : String} (h : (paramDoc s p).result = .ok line) :
    Closes line ↔ ∃ text ∈ p.looseTexts s.releases, Closes text := by
  rcases paramDoc_eq_ok h with ⟨doc, info, hdoc, hinfo, rfl⟩
  have clean : ¬Closes doc := by
    intro closes
    rcases closes_describedOr hdoc closes with ⟨_, usual⟩
    rw [← Except.ok.inj usual] at closes
    exact absurd closes (by decide)
  have named : Closes (" @param " ++ p.memberName) ↔ Closes p.memberName :=
    closes_behind (by decide) (by decide)
  calc Closes (" @param " ++ p.memberName ++ " " ++ doc ++ if info = "" then "" else " " ++ info)
      ↔ Closes (" @param " ++ p.memberName ++ " " ++ doc) ∨ Closes info := closes_noted_iff
    _ ↔ Closes p.memberName ∨ ∃ text ∈ p.lifecycle.looseTexts s.releases, Closes text := by
        rw [closes_spaced, named, closes_publishedInfo_iff hinfo]
        simp [clean]
    _ ↔ ∃ text ∈ p.looseTexts s.releases, Closes text := by
        simp [Param.looseTexts]

theorem clean_returnDoc_iff {lines : List String}
    (h : (returnDoc cls message async).result = .ok lines) :
    (∀ line ∈ lines, ¬Closes line) ↔
      ∀ text ∈ if async then [] else message.looseReturn cls, ¬Closes text := by
  rcases returnDoc_eq_ok h with ⟨rfl, rfl⟩ | ⟨rfl, nothing, rfl⟩ | ⟨rfl, answer, doc, given, hdoc, rfl⟩
  · have clean : ¬Closes " @return Task" := by decide
    simp [clean]
  · simp [Message.looseReturn, nothing]
  · have behind : Closes (" @return " ++ doc) ↔ Closes doc := closes_behind (by decide) (by decide)
    -- A description is escaped, and the type that stands in its place is not.
    unfold describedOr at hdoc
    cases described : answer.description.truthy with
    | true =>
      simp only [described, if_true] at hdoc
      have clean : ¬Closes doc := not_closes_described hdoc
      simp [Message.looseReturn, given, described, behind, clean]
    | false =>
      simp only [described, Bool.false_eq_true, if_false] at hdoc
      simp [Message.looseReturn, given, described, behind, hdoc, Except.toOption]

theorem closes_thrown_iff {exception description : String} :
    Closes (" @throws " ++ exception ++ " " ++ description) ↔
      Closes exception ∨ Closes description := by
  have behind : Closes (" @throws " ++ exception) ↔ Closes exception :=
    closes_behind (by decide) (by decide)
  rw [closes_spaced, behind]

theorem clean_commonErrors : ∀ e ∈ MethodSource.commonErrors, ¬Closes e.1 ∧ ¬Closes e.2 := by
  have cases : ¬Closes ("if an error occurs during a send or receive. This includes cases where " ++
      "a payload is invalid JSON.") :=
    (closes_before (not_closes_ofList (by decide)) (by decide)).not.mpr
      (not_closes_ofList (by decide))
  simp only [MethodSource.commonErrors, List.forall_mem_cons]
  refine ⟨⟨?_, ?_⟩, ⟨?_, ?_⟩, ⟨?_, cases⟩, by simp⟩
  all_goals exact not_closes_ofList (by decide)

theorem clean_commonLines :
    ∀ line ∈ MethodSource.commonErrors.map (fun e => " @throws " ++ e.1 ++ " " ++ e.2),
      ¬Closes line := by
  intro line hline
  rcases List.mem_map.mp hline with ⟨e, he, rfl⟩
  exact closes_thrown_iff.not.mpr (not_or.mpr (clean_commonErrors e he))

theorem closes_errorDoc_iff {e : ErrorDef} {line : String} (h : (errorDoc e).result = .ok line) :
    Closes line ↔ Closes (Naming.exceptionCase e.name.display) := by
  rcases errorDoc_eq_ok h with ⟨exception, description, hexception, hdescription, rfl⟩
  rcases result_bind_eq_ok.mp hexception with ⟨name, hname, hreturn⟩
  have named : e.name.display = name := by
    rw [Json.asText_eq_ok hname]
    rfl
  have clean : ¬Closes description := not_closes_described hdescription
  calc Closes (" @throws " ++ exception ++ " " ++ description)
      ↔ Closes exception ∨ Closes description := closes_thrown_iff
    _ ↔ Closes exception := or_iff_left clean
    _ ↔ Closes ("Types." ++ Naming.exceptionCase name) := by rw [← Except.ok.inj hreturn]
    _ ↔ Closes (Naming.exceptionCase e.name.display) := by
        rw [named]
        exact closes_behind (by decide) (by decide)

/-- What is made of items one by one is harmless exactly if nothing put in by an item is harmful. -/
theorem harmless_iff_of_mapM {α β : Type} {f : α → Except Fault β} {loose : α → List String}
    {Harmless : β → Prop} {items : List α} {made : List β} (h : items.mapM f = .ok made)
    (each : ∀ item b, f item = .ok b → (Harmless b ↔ ∀ text ∈ loose item, ¬Closes text)) :
    (∀ b ∈ made, Harmless b) ↔ ∀ text ∈ items.flatMap loose, ¬Closes text := by
  constructor
  · intro harmless text htext
    rcases List.mem_flatMap.mp htext with ⟨item, hitem, hloose⟩
    rcases Except.exists_of_mem_mapM h hitem with ⟨b, hb, from_item⟩
    exact (each item b from_item).mp (harmless b hb) text hloose
  · intro clean b hb
    rcases (Except.mem_iff_of_mapM_eq_ok h).mp hb with ⟨item, hitem, from_item⟩
    refine (each item b from_item).mpr fun text htext => ?_
    exact clean text (List.mem_flatMap.mpr ⟨item, hitem, htext⟩)

namespace DocParts

variable {doc : List String}

theorem clean_opening_iff (parts : DocParts s cls message params async doc) :
    (∀ line ∈ [" " ++ parts.description, " Minimum allowed role: " ++ message.minRole.display],
      ¬Closes line) ↔ ¬Closes message.minRole.display := by
  have description : ¬Closes (" " ++ parts.description) :=
    (closes_behind (by decide) (by decide)).not.mpr (not_closes_described parts.described)
  have role : Closes (" Minimum allowed role: " ++ message.minRole.display) ↔
      Closes message.minRole.display := closes_behind (by decide) (by decide)
  simp [description, role]

/-- The line about deprecation shows a release that the note about releases shows, too. -/
theorem clean_deprecated (parts : DocParts s cls message params async doc)
    (clean : ∀ text ∈ message.lifecycle.looseTexts s.releases, ¬Closes text) :
    ∀ line ∈ if parts.deprecated.truthy then
      [" @deprecated since " ++ parts.deprecated.display] else [], ¬Closes line := by
  have shown : ¬Closes parts.deprecated.display := by
    intro closes
    rcases closes_deprecatedRelease parts.since closes with ⟨text, htext, closes⟩
    exact clean text htext closes
  have line : ¬Closes (" @deprecated since " ++ parts.deprecated.display) :=
    (closes_behind (by decide) (by decide)).not.mpr shown
  split
  · simpa using line
  · simp

theorem clean_params_iff (parts : DocParts s cls message params async doc) :
    (∀ line ∈ parts.params, ¬Closes line) ↔
      ∀ text ∈ params.flatMap (Param.looseTexts · s.releases), ¬Closes text :=
  harmless_iff_of_mapM parts.paramDocs fun p line h => by simp [closes_paramDoc_iff h]

theorem clean_errors_iff (parts : DocParts s cls message params async doc) :
    (∀ line ∈ parts.errors, ¬Closes line) ↔
      ∀ text ∈ message.errors.map (fun e => Naming.exceptionCase e.name.display),
        ¬Closes text := by
  rw [List.map_eq_flatMap]
  exact harmless_iff_of_mapM parts.errorDocs fun e line h => by simp [closes_errorDoc_iff h]

/-- The comment of a method shows what its message puts in, and nothing else ends it. -/
theorem clean_iff (parts : DocParts s cls message params async doc) :
    (∀ line ∈ doc, ¬Closes line) ↔
      ∀ text ∈ message.looseTexts s cls params async, ¬Closes text := by
  have info : (∀ line ∈ if parts.info = "" then [] else [" " ++ parts.info], ¬Closes line) ↔
      ∀ text ∈ message.lifecycle.looseTexts s.releases, ¬Closes text :=
    clean_info_iff (by decide) (by decide) parts.published
  have fixed : ∀ line ∈ ["", " @param c The connection the call is made on"], ¬Closes line := by
    decide
  -- Part by part, the lines ask for what the message shows; the parts left over ask for no more.
  rw [parts.lines]
  simp only [Message.looseTexts, List.forall_mem_append, List.forall_mem_singleton,
    parts.clean_opening_iff, info, parts.clean_params_iff, clean_returnDoc_iff parts.returnDocs,
    parts.clean_errors_iff]
  constructor
  · rintro ⟨⟨⟨⟨⟨⟨⟨role, releases⟩, -⟩, -⟩, given⟩, returned⟩, -⟩, errors⟩
    exact ⟨⟨⟨⟨role, releases⟩, given⟩, returned⟩, errors⟩
  · rintro ⟨⟨⟨⟨role, releases⟩, given⟩, returned⟩, errors⟩
    exact ⟨⟨⟨⟨⟨⟨⟨role, releases⟩, parts.clean_deprecated releases⟩, fixed⟩, given⟩, returned⟩,
      clean_commonLines⟩, errors⟩

/-- Each line of the comment of a method is empty or starts with a space. -/
theorem spaced (parts : DocParts s cls message params async doc) :
    ∀ line ∈ doc, line.toList.head? ≠ some '/' := by
  rw [parts.lines]
  simp only [List.forall_mem_append]
  refine ⟨⟨⟨⟨⟨⟨⟨?_, ?_⟩, ?_⟩, by decide⟩, ?_⟩, ?_⟩, ?_⟩, ?_⟩
  · simp
  · split <;> simp
  · split <;> simp
  · intro line hline
    rcases (Except.mem_iff_of_mapM_eq_ok parts.paramDocs).mp hline with ⟨p, _, h⟩
    rcases paramDoc_eq_ok h with ⟨doc, info, _, _, rfl⟩
    simp only [String.append_assoc]
    exact spaced_behind (by decide)
  · intro line hline
    rcases returnDoc_eq_ok parts.returnDocs with
      ⟨_, lines⟩ | ⟨_, _, lines⟩ | ⟨_, answer, doc, _, _, lines⟩
    · rw [lines, List.mem_singleton] at hline
      rw [hline]
      decide
    · simp [lines] at hline
    · rw [lines, List.mem_singleton] at hline
      rw [hline]
      exact spaced_behind (by decide)
  · intro line hline
    rcases List.mem_map.mp hline with ⟨e, _, rfl⟩
    simp only [String.append_assoc]
    exact spaced_behind (by decide)
  · intro line hline
    rcases (Except.mem_iff_of_mapM_eq_ok parts.errorDocs).mp hline with ⟨e, _, h⟩
    rcases errorDoc_eq_ok h with ⟨exception, description, _, _, rfl⟩
    simp only [String.append_assoc]
    exact spaced_behind (by decide)

end DocParts

theorem MethodParts.sealed_iff {m : MethodSource} (parts : MethodParts s cls message params async m) :
    Sealed m.docLines ↔ ∀ text ∈ message.looseTexts s cls params async, ¬Closes text := by
  rw [← parts.doc.clean_iff]
  exact Comment.sealed_iff (by decide) (by decide) fun line hline _ => parts.doc.spaced line hline

/-! ## Classes and members -/

theorem sealed_class_iff {source : ClassSource}
    (h : (ClassSource.classDoc s cls).result = .ok source.doc) :
    Sealed source.docLines ↔ ∀ text ∈ cls.lifecycle.looseTexts s.releases, ¬Closes text := by
  rcases result_bind_eq_ok.mp h with ⟨description, hdescription, h⟩
  rcases result_bind_eq_ok.mp h with ⟨info, hinfo, hreturn⟩
  have described : ¬Closes (" " ++ description) :=
    (closes_behind (by decide) (by decide)).not.mpr (not_closes_described hdescription)
  have lines := (Except.ok.inj hreturn).symm
  have spaced : ∀ line ∈ source.doc, line.toList.head? ≠ some '/' := by
    rw [lines]
    simp only [List.forall_mem_append]
    refine ⟨⟨?_, ?_⟩, by decide⟩
    · simp
    · split <;> simp
  calc Sealed source.docLines
      ↔ ∀ line ∈ source.doc, ¬Closes line :=
        Comment.sealed_iff (by decide) (by decide) fun line hline _ => spaced line hline
    _ ↔ ∀ line ∈ if info = "" then [] else [" " ++ info], ¬Closes line := by
        have fixed : ∀ line ∈ ["", " @author Cloud Software Group, Inc."], ¬Closes line := by decide
        rw [lines]
        simp only [List.forall_mem_append, List.forall_mem_singleton, described,
          not_false_eq_true, true_and]
        exact and_iff_left fixed
    _ ↔ ∀ text ∈ cls.lifecycle.looseTexts s.releases, ¬Closes text :=
        clean_info_iff (by decide) (by decide) hinfo

theorem sealed_declaration_iff {leaf : Leaf} {d : Declaration}
    (h : (declaration s leaf).result = .ok d) :
    Sealed d.docLines ↔ ∀ text ∈ leaf.field.lifecycle.looseTexts s.releases, ¬Closes text := by
  rcases exists_declarationParts h with ⟨parts⟩
  calc Sealed d.docLines
      ↔ ∀ line ∈ d.doc, ¬Closes line :=
        Comment.sealed_iff (by decide) (by decide) fun _ _ star => absurd star (by decide)
    _ ↔ ∀ line ∈ if parts.info = "" then [] else ["" ++ parts.info], ¬Closes line := by
        have clean : ¬Closes parts.description := not_closes_described parts.described
        simp [parts.doc, clean]
    _ ↔ ∀ text ∈ leaf.field.lifecycle.looseTexts s.releases, ¬Closes text :=
        clean_info_iff (by decide) (by decide) parts.published

theorem sealed_synthetic {m : SyntheticMember} (clean : ¬Closes m.description) :
    Sealed m.declaration.docLines :=
  (Comment.sealed_iff (by decide) (by decide) fun _ _ star => absurd star (by decide)).mpr
    (not_closes_lines clean)

/-- The members that no schema declares are described by fixed texts. -/
theorem sealed_syntheticMembers (cls : ApiClass) :
    ∀ m ∈ cls.syntheticMembers, Sealed m.declaration.docLines := by
  have kind : ¬Closes (eventKindMember Scalar.string.javaType).description :=
    not_closes_ofList (by decide)
  have snapshot : ¬Closes snapshotMember.description :=
    (closes_before (not_closes_ofList (by decide)) (by decide)).not.mpr
      (not_closes_ofList (by decide))
  unfold ApiClass.syntheticMembers
  rw [List.forall_mem_append]
  constructor
  · split
    · simpa using sealed_synthetic kind
    · simp
  · split
    · simpa using sealed_synthetic snapshot
    · simp

theorem sealed_record_iff {record : RecordSource}
    (h : (RecordSource.ofClass s cls cls.syntheticMembers).result = .ok record) :
    (∀ d ∈ record.declared, Sealed d.docLines) ↔
      ∀ text ∈ cls.leaves.flatMap fun leaf => leaf.field.lifecycle.looseTexts s.releases,
        ¬Closes text := by
  rcases RecordSource.ofClass_eq_ok h with ⟨_, declared, _, hdeclared, _, inClass, _⟩
  have leaves := harmless_iff_of_mapM hdeclared fun leaf d hd => sealed_declaration_iff hd
  have others : ∀ d ∈ cls.syntheticMembers.map SyntheticMember.declaration, Sealed d.docLines := by
    simpa using sealed_syntheticMembers cls
  rw [inClass, List.forall_mem_append, leaves]
  exact and_iff_left others

/-- A class without contents has no record, and no leaves that could show anything. -/
theorem sealed_members_iff {record : Option RecordSource}
    (h : (ClassSource.classRecord s cls).result = .ok record) :
    (∀ d ∈ record.toList.flatMap RecordSource.declared, Sealed d.docLines) ↔
      ∀ text ∈ cls.leaves.flatMap fun leaf => leaf.field.lifecycle.looseTexts s.releases,
        ¬Closes text := by
  rcases classRecord_eq_ok h with ⟨empty, rfl⟩ | ⟨_, filled, rfl, made⟩
  · have contents : cls.contents = [] := by simpa [ApiClass.isEmpty] using empty
    simp [ApiClass.leaves, contents, leavesOf]
  · simpa using sealed_record_iff made

/-! ## Methods of a class -/

/-- A method shows no more than the method of all parameters that answers at once. -/
theorem clean_of_overload (given : params ∈ overloads message.params)
    (clean : ∀ text ∈ message.looseTexts s cls message.params false, ¬Closes text) :
    ∀ text ∈ message.looseTexts s cls params async, ¬Closes text := by
  simp only [Message.looseTexts, List.forall_mem_append] at clean ⊢
  rcases clean with ⟨⟨⟨atRole, atParams⟩, atReturn⟩, atErrors⟩
  refine ⟨⟨⟨atRole, ?_⟩, ?_⟩, atErrors⟩
  · intro text htext
    rcases List.mem_flatMap.mp htext with ⟨p, hp, shown⟩
    exact atParams text (List.mem_flatMap.mpr ⟨p, mem_of_mem_overloads given hp, shown⟩)
  · cases async with
    | true => simp
    | false => exact atReturn

theorem ClassParts.sealed_methods_iff {source : ClassSource} (parts : ClassParts s cls source) :
    (∀ m ∈ source.methods, Sealed m.docLines) ↔
      ∀ text ∈ cls.messages.flatMap fun m => m.looseTexts s cls m.params false, ¬Closes text := by
  constructor
  · intro closed text htext
    rcases List.mem_flatMap.mp htext with ⟨message, hmessage, shown⟩
    -- One method of each message shows all of its parameters and what it answers.
    rcases parts.exists_method hmessage (self_mem_overloads message.params)
      message.false_mem_modes with ⟨m, hm, made⟩
    rcases exists_methodParts made with ⟨method⟩
    exact method.sealed_iff.mp (closed m hm) text shown
  · intro clean m hm
    rcases parts.mem_methods_iff.mp hm with ⟨message, hmessage, params, given, async, _, made⟩
    rcases exists_methodParts made with ⟨method⟩
    refine method.sealed_iff.mpr (clean_of_overload given fun text htext => ?_)
    exact clean text (List.mem_flatMap.mpr ⟨message, hmessage, htext⟩)

/-! ## Sources -/

namespace ClassSource

/-- The comments of a source: that of the class, those of its members, and those of its methods. -/
def comments (source : ClassSource) : List (List String) :=
  [source.docLines] ++
    (source.record.toList.flatMap RecordSource.declared).map Declaration.docLines ++
    source.methods.map MethodSource.docLines

/-- Each comment of a source ends in its last line only. -/
def Sealed (source : ClassSource) : Prop :=
  ∀ comment ∈ source.comments, Comment.Sealed comment

instance (source : ClassSource) : Decidable source.Sealed :=
  inferInstanceAs (Decidable (∀ comment ∈ source.comments, Comment.Sealed comment))

end ClassSource

/-- The comments of a source end in their last lines only exactly if none of the texts that are put
in as they are holds the end of a comment. -/
theorem sealed_iff_loose {source : ClassSource}
    (h : (ClassSource.ofClass s cls).result = .ok source) :
    source.Sealed ↔ ∀ text ∈ cls.looseTexts s, ¬Closes text := by
  rcases exists_classParts h with ⟨parts⟩
  have members := sealed_members_iff parts.record
  simp only [ClassSource.Sealed, ClassSource.comments, ApiClass.looseTexts, List.forall_mem_append,
    List.forall_mem_singleton, List.forall_mem_map, sealed_class_iff parts.doc, members,
    parts.sealed_methods_iff]

end Source

namespace Sample

/-- A description in which a comment would end. -/
def remark : Json :=
  .text "All of this */ is text."

/-- A class with such descriptions everywhere, and a message with a given least role. -/
def remarked (role : String) : Json :=
  .object [
    ("releases", .list [.object [("code_name", .text "rio"), ("branding", .text "Version 4.0")]]),
    ("errors", .list [.object [("name", .text "VM_LOCKED"), ("description", remark)]]),
    ("classes", .list [
      .object [
        ("name", .text "vm"),
        ("description", remark),
        ("lifecycle", .object [("published", .text "rio")]),
        ("fields", .list [
          .object [("name", .text "label"), ("type", .text "string"), ("description", remark)]]),
        ("messages", .list [
          .object [
            ("name", .text "start"),
            ("description", remark),
            ("min_role", .text role),
            ("params", .list [
              .object [("name", .text "paused"), ("type", .text "bool"), ("description", remark)]]),
            ("result", .object [("type", .text "string"), ("description", remark)]),
            ("errors", .list [.text "VM_LOCKED"])]])]])]

set_option maxRecDepth 20000 in
theorem clean_remarked :
    ((firstSource? (remarked "vm-operator")).any fun (schema, cls, _) =>
      ∀ text ∈ cls.looseTexts (config.settings schema), ¬Comment.Closes text) = true := by
  decide +kernel

set_option maxRecDepth 20000 in
theorem closes_remarked :
    ((firstSource? (remarked "*/")).any fun (_, cls, _) =>
      ∃ message ∈ cls.messages, message.minRole = .text "*/") = true := by
  decide +kernel

end Sample

namespace Source

theorem sealed_iff_loose_remarked :
    ∃ schema cls source, Schema.ofDocument (Sample.remarked "vm-operator") = .ok schema ∧
      cls ∈ schema.classes ∧
      (ClassSource.ofClass (Sample.config.settings schema) cls).result = .ok source ∧
      source.Sealed := by
  rcases (Option.any_eq_true _ _).mp Sample.clean_remarked with ⟨⟨schema, cls, source⟩, first, clean⟩
  rcases Sample.of_firstSource?_eq_some first with ⟨parsed, hcls, made⟩
  exact ⟨schema, cls, source, parsed, hcls, made,
    (sealed_iff_loose made).mpr (of_decide_eq_true clean)⟩

/-- A least role closes the comment of its method. -/
theorem not_sealed_of_role :
    ∃ schema cls source, Schema.ofDocument (Sample.remarked "*/") = .ok schema ∧
      cls ∈ schema.classes ∧
      (ClassSource.ofClass (Sample.config.settings schema) cls).result = .ok source ∧
      ¬source.Sealed := by
  rcases (Option.any_eq_true _ _).mp Sample.closes_remarked with ⟨⟨schema, cls, source⟩, first, role⟩
  rcases Sample.of_firstSource?_eq_some first with ⟨parsed, hcls, made⟩
  rcases of_decide_eq_true role with ⟨message, hmessage, role⟩
  rcases exists_classParts made with ⟨parts⟩
  refine ⟨schema, cls, source, parsed, hcls, made, fun closed => ?_⟩
  have methods : ∀ m ∈ source.methods, Comment.Sealed m.docLines := by
    intro m hm
    exact closed _ (List.mem_append_right _ (List.mem_map_of_mem hm))
  have shown : message.minRole.display ∈
      cls.messages.flatMap fun m => m.looseTexts (Sample.config.settings schema) cls m.params false :=
    List.mem_flatMap.mpr ⟨message, hmessage, by simp [Message.looseTexts]⟩
  have clean := parts.sealed_methods_iff.mp methods _ shown
  rw [role] at clean
  exact clean (by decide)

end Source
end ClientBindings
