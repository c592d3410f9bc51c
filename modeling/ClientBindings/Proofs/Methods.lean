import ClientBindings.Proofs.Sources

/-!
# Methods — what the parts of a source are made of

A source that is generated has a comment, a record if there is something to refer to, and methods.
Each of the methods comes from a message and one of its lists of parameters, and every message has
methods for all of its lists.

* `Source.ClassParts`, `Source.exists_classParts` — the parts of a source;
* `Source.classRecord_eq_ok` — its record;
* `Source.ClassParts.mem_methods_iff`, `exists_method` — its methods, message by message;
* `Source.DocParts`, `Source.MethodParts` — the parts of the comment of a method and of the method.
-/

namespace ClientBindings

/-- Whether a method starts a task, for each of the methods that a message has for one list of
parameters. -/
def Message.modes (m : Message) : List Bool :=
  if m.isAsync then [true, false] else [false]

theorem Message.false_mem_modes (m : Message) : false ∈ m.modes := by
  unfold modes
  cases m.isAsync with
  | false => simp
  | true => simp

namespace Source

open Emission

variable {s : Settings} {cls : ApiClass} {message : Message} {params : List Param} {async : Bool}
  {m : MethodSource} {methods : List MethodSource}

/-! ## Methods of a message -/

theorem result_overloadMethods (s : Settings) (cls : ApiClass) (message : Message)
    (params : List Param) :
    (overloadMethods s cls message params).result =
      message.modes.mapM fun async => (MethodSource.ofMessage s cls message params async).result := by
  unfold overloadMethods Message.modes
  cases message.isAsync with
  | false =>
    simp only [Bool.false_eq_true, if_false, pure_bind, result_bind, List.mapM_cons, List.mapM_nil]
    rfl
  | true =>
    simp only [if_true, result_bind, result_map, List.mapM_cons, List.mapM_nil, bind_assoc,
      pure_bind]
    cases (MethodSource.ofMessage s cls message params true).result with
    | error fault => rfl
    | ok task => rfl

/-- The lists of methods of a message, one for each list of parameters. -/
theorem messageMethods_eq_ok (h : (messageMethods s cls message).result = .ok methods) :
    ∃ lists, methods = lists.flatten ∧ (overloads message.params).mapM (fun params =>
      message.modes.mapM fun async =>
        (MethodSource.ofMessage s cls message params async).result) = .ok lists := by
  rcases result_bind_eq_ok.mp h with ⟨lists, hlists, hreturn⟩
  rw [result_mapM] at hlists
  simp only [result_overloadMethods] at hlists
  exact ⟨lists, (Except.ok.inj hreturn).symm, hlists⟩

theorem mem_messageMethods_iff (h : (messageMethods s cls message).result = .ok methods) :
    m ∈ methods ↔ ∃ params ∈ overloads message.params, ∃ async ∈ message.modes,
      (MethodSource.ofMessage s cls message params async).result = .ok m := by
  rcases messageMethods_eq_ok h with ⟨lists, rfl, hlists⟩
  rw [List.mem_flatten]
  constructor
  · rintro ⟨list, hlist, hm⟩
    rcases Except.exists_of_mem_of_mapM_eq_ok hlists hlist with ⟨params, hparams, each⟩
    exact ⟨params, hparams, (Except.mem_iff_of_mapM_eq_ok each).mp hm⟩
  · rintro ⟨params, hparams, there⟩
    rcases Except.exists_of_mem_mapM hlists hparams with ⟨list, hlist, each⟩
    exact ⟨list, hlist, (Except.mem_iff_of_mapM_eq_ok each).mpr there⟩

theorem exists_messageMethod (h : (messageMethods s cls message).result = .ok methods)
    (hparams : params ∈ overloads message.params) (hasync : async ∈ message.modes) :
    ∃ m ∈ methods, (MethodSource.ofMessage s cls message params async).result = .ok m := by
  rcases messageMethods_eq_ok h with ⟨lists, rfl, hlists⟩
  rcases Except.exists_of_mem_mapM hlists hparams with ⟨list, hlist, each⟩
  rcases Except.exists_of_mem_mapM each hasync with ⟨m, hm, made⟩
  exact ⟨m, List.mem_flatten.mpr ⟨list, hlist, hm⟩, made⟩

/-! ## Parts of a source -/

/-- The parts of the source of a class. -/
structure ClassParts (s : Settings) (cls : ApiClass) (source : ClassSource) where
  lists : List (List MethodSource)
  named : cls.name = .text cls.name.display
  doc : (ClassSource.classDoc s cls).result = .ok source.doc
  record : (ClassSource.classRecord s cls).result = .ok source.record
  each : cls.messages.mapM (fun message => (messageMethods s cls message).result) = .ok lists
  methods : source.methods = lists.flatten

theorem exists_classParts {source : ClassSource} (h : (ClassSource.ofClass s cls).result = .ok source) :
    Nonempty (ClassParts s cls source) := by
  rcases result_bind_eq_ok.mp h with ⟨name, hname, h⟩
  rcases result_bind_eq_ok.mp h with ⟨doc, hdoc, h⟩
  rcases result_bind_eq_ok.mp h with ⟨record, hrecord, h⟩
  rcases result_bind_eq_ok.mp h with ⟨lists, hlists, hreturn⟩
  rw [result_mapM] at hlists
  have named : cls.name = .text cls.name.display := by
    rw [Json.asText_eq_ok hname]
    rfl
  cases hreturn
  exact ⟨⟨lists, named, hdoc, hrecord, hlists, rfl⟩⟩

/-- A class has a record in its source exactly if there is something in it. -/
theorem classRecord_eq_ok {record : Option RecordSource}
    (h : (ClassSource.classRecord s cls).result = .ok record) :
    cls.isEmpty = true ∧ record = none ∨ cls.isEmpty = false ∧ ∃ filled, record = some filled ∧
      (RecordSource.ofClass s cls cls.syntheticMembers).result = .ok filled := by
  unfold ClassSource.classRecord at h
  cases empty : cls.isEmpty with
  | true =>
    simp only [empty, if_true] at h
    exact Or.inl ⟨rfl, (Except.ok.inj h).symm⟩
  | false =>
    simp only [empty, Bool.false_eq_true, if_false] at h
    rcases result_bind_eq_ok.mp h with ⟨members, hmembers, h⟩
    rcases result_bind_eq_ok.mp h with ⟨filled, hfilled, hreturn⟩
    rw [syntheticMembers_eq_ok hmembers] at hfilled
    exact Or.inr ⟨rfl, filled, (Except.ok.inj hreturn).symm, hfilled⟩

namespace ClassParts

variable {source : ClassSource}

/-- The methods of a class come from its messages. -/
theorem mem_methods_iff (parts : ClassParts s cls source) :
    m ∈ source.methods ↔ ∃ message ∈ cls.messages, ∃ params ∈ overloads message.params,
      ∃ async ∈ message.modes,
        (MethodSource.ofMessage s cls message params async).result = .ok m := by
  rw [parts.methods, List.mem_flatten]
  constructor
  · rintro ⟨methods, hmethods, hm⟩
    rcases Except.exists_of_mem_of_mapM_eq_ok parts.each hmethods with ⟨message, hmessage, made⟩
    exact ⟨message, hmessage, (mem_messageMethods_iff made).mp hm⟩
  · rintro ⟨message, hmessage, there⟩
    rcases Except.exists_of_mem_mapM parts.each hmessage with ⟨methods, hmethods, made⟩
    exact ⟨methods, hmethods, (mem_messageMethods_iff made).mpr there⟩

theorem exists_method (parts : ClassParts s cls source) (hmessage : message ∈ cls.messages)
    (hparams : params ∈ overloads message.params) (hasync : async ∈ message.modes) :
    ∃ m ∈ source.methods, (MethodSource.ofMessage s cls message params async).result = .ok m := by
  rcases Except.exists_of_mem_mapM parts.each hmessage with ⟨methods, hmethods, made⟩
  rcases exists_messageMethod made hparams hasync with ⟨m, hm, result⟩
  rw [parts.methods]
  exact ⟨m, List.mem_flatten.mpr ⟨methods, hmethods, hm⟩, result⟩

end ClassParts

/-! ## Releases -/

theorem sentence_eq_ok {releases : List Release} {opening : String} {release : Json}
    {sentences : List String}
    (h : (Comment.sentence releases opening release).result = .ok sentences) :
    release.truthy = false ∧ sentences = [] ∨ release.truthy = true ∧
      ∃ name, (Comment.branding releases release).result = .ok name ∧
        sentences = [opening ++ name.display ++ "."] := by
  unfold Comment.sentence at h
  cases given : release.truthy with
  | false =>
    simp only [given, Bool.false_eq_true, if_false] at h
    exact Or.inl ⟨rfl, (Except.ok.inj h).symm⟩
  | true =>
    simp only [given, if_true] at h
    rcases result_bind_eq_ok.mp h with ⟨name, hname, hreturn⟩
    exact Or.inr ⟨rfl, name, hname, (Except.ok.inj hreturn).symm⟩

/-- What a comment says about releases: one sentence about the first, and one about the last. -/
theorem publishedInfo_eq_ok {releases : List Release} {life : Lifecycle} {info : String}
    (h : (Comment.publishedInfo releases life).result = .ok info) :
    ∃ first last,
      (Comment.sentence releases "First published in " life.published).result = .ok first ∧
      (Comment.sentence releases "Deprecated since " life.deprecated).result = .ok last ∧
      info = Text.joined " " (first ++ last) := by
  rcases result_bind_eq_ok.mp h with ⟨first, hfirst, h⟩
  rcases result_bind_eq_ok.mp h with ⟨last, hlast, hreturn⟩
  exact ⟨first, last, hfirst, hlast, (Except.ok.inj hreturn).symm⟩

/-! ## Lines of a comment -/

theorem paramDoc_eq_ok {p : Param} {line : String} (h : (paramDoc s p).result = .ok line) :
    ∃ doc info, (Comment.describedOr p.description (pure "No description")).result = .ok doc ∧
      (Comment.publishedInfo s.releases p.lifecycle).result = .ok info ∧
      line = " @param " ++ p.memberName ++ " " ++ doc ++ (if info = "" then "" else " " ++ info) := by
  rcases result_bind_eq_ok.mp h with ⟨doc, hdoc, h⟩
  rcases result_bind_eq_ok.mp h with ⟨info, hinfo, hreturn⟩
  exact ⟨doc, info, hdoc, hinfo, (Except.ok.inj hreturn).symm⟩

/-- A task is returned without further words, and an answer with its description or its type. -/
theorem returnDoc_eq_ok {lines : List String}
    (h : (returnDoc cls message async).result = .ok lines) :
    async = true ∧ lines = [" @return Task"] ∨ async = false ∧ message.answer = none ∧ lines = [] ∨
      async = false ∧ ∃ answer doc, message.answer = some answer ∧
        (Comment.describedOr answer.description (returnType cls message)).result = .ok doc ∧
        lines = [" @return " ++ doc] := by
  unfold returnDoc at h
  cases async with
  | true => exact Or.inl ⟨rfl, (Except.ok.inj h).symm⟩
  | false =>
    cases hanswer : message.answer with
    | none =>
      simp only [hanswer, Bool.false_eq_true, if_false] at h
      exact Or.inr (Or.inl ⟨rfl, rfl, (Except.ok.inj h).symm⟩)
    | some answer =>
      simp only [hanswer, Bool.false_eq_true, if_false] at h
      rcases result_bind_eq_ok.mp h with ⟨doc, hdoc, hreturn⟩
      exact Or.inr (Or.inr ⟨rfl, answer, doc, rfl, hdoc, (Except.ok.inj hreturn).symm⟩)

theorem errorDoc_eq_ok {e : ErrorDef} {line : String} (h : (errorDoc e).result = .ok line) :
    ∃ exception description, (exceptionName e).result = .ok exception ∧
      Comment.described e.description = .ok description ∧
      line = " @throws " ++ exception ++ " " ++ description := by
  rcases result_bind_eq_ok.mp h with ⟨exception, hexception, h⟩
  rcases result_bind_eq_ok.mp h with ⟨description, hdescription, hreturn⟩
  exact ⟨exception, description, hexception, hdescription, (Except.ok.inj hreturn).symm⟩

/-! ## Parts of a method -/

/-- The parts of the comment of a method. -/
structure DocParts (s : Settings) (cls : ApiClass) (message : Message) (given : List Param)
    (async : Bool) (doc : List String) where
  description : String
  info : String
  deprecated : Json
  params : List String
  returned : List String
  errors : List String
  described : Comment.described message.description = .ok description
  published : (Comment.publishedInfo s.releases message.lifecycle).result = .ok info
  since : (Comment.deprecatedRelease s.releases message.lifecycle).result = .ok deprecated
  paramDocs : given.mapM (fun p => (paramDoc s p).result) = .ok params
  returnDocs : (returnDoc cls message async).result = .ok returned
  errorDocs : message.errors.mapM (fun e => (errorDoc e).result) = .ok errors
  lines : doc = [" " ++ description, " Minimum allowed role: " ++ message.minRole.display] ++
    (if info = "" then [] else [" " ++ info]) ++
    (if deprecated.truthy then [" @deprecated since " ++ deprecated.display] else []) ++
    ["", " @param c The connection the call is made on"] ++ params ++ returned ++
    MethodSource.commonErrors.map (fun e => " @throws " ++ e.1 ++ " " ++ e.2) ++ errors

theorem exists_docParts {doc : List String}
    (h : (methodDoc s cls message params async).result = .ok doc) :
    Nonempty (DocParts s cls message params async doc) := by
  rcases result_bind_eq_ok.mp h with ⟨description, hdescription, h⟩
  rcases result_bind_eq_ok.mp h with ⟨info, hinfo, h⟩
  rcases result_bind_eq_ok.mp h with ⟨deprecated, hdeprecated, h⟩
  rcases result_bind_eq_ok.mp h with ⟨paramDocs, hparams, h⟩
  rcases result_bind_eq_ok.mp h with ⟨returned, hreturned, h⟩
  rcases result_bind_eq_ok.mp h with ⟨errors, herrors, hreturn⟩
  rw [result_mapM] at hparams herrors
  exact ⟨⟨description, info, deprecated, paramDocs, returned, errors, hdescription, hinfo,
    hdeprecated, hparams, hreturned, herrors, (Except.ok.inj hreturn).symm⟩⟩

/-- The parts of a method that say what it throws. -/
structure MethodParts (s : Settings) (cls : ApiClass) (message : Message) (params : List Param)
    (async : Bool) (m : MethodSource) where
  exceptions : List String
  doc : DocParts s cls message params async m.doc
  named : message.errors.mapM (fun e => (exceptionName e).result) = .ok exceptions
  throws : m.throws = MethodSource.commonErrors.map Prod.fst ++ exceptions

theorem exists_methodParts (h : (MethodSource.ofMessage s cls message params async).result = .ok m) :
    Nonempty (MethodParts s cls message params async m) := by
  rcases result_bind_eq_ok.mp h with ⟨javaType, _, h⟩
  rcases result_bind_eq_ok.mp h with ⟨name, _, h⟩
  rcases result_bind_eq_ok.mp h with ⟨typed, _, h⟩
  rcases result_bind_eq_ok.mp h with ⟨doc, hdoc, h⟩
  rcases result_bind_eq_ok.mp h with ⟨mark, _, h⟩
  rcases result_bind_eq_ok.mp h with ⟨exceptions, hexceptions, h⟩
  rcases result_bind_eq_ok.mp h with ⟨u, _, hreturn⟩
  rw [result_mapM] at hexceptions
  rcases exists_docParts hdoc with ⟨parts⟩
  cases hreturn
  exact ⟨⟨exceptions, parts, hexceptions, rfl⟩⟩

end Source
end ClientBindings
