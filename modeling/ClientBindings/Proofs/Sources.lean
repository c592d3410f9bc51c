import ClientBindings.Proofs.Resolution
import ClientBindings.Source.Class

/-!
# Sources — what generating a class registers

A class source that completes has registered the types of the leaves of the class, of the parameters
and the answers of its messages, and of the members that its schema does not declare, each with its
parts; and the layout of its record, if it has one.

* `Message.types`, `ApiClass.types` — the types that a message and a class mention;
* `ApiClass.lacksKind`, `ApiClass.recordLayout` — the kind of an event, and the layout of a record;
* `messageMethods_registers`, `ofClass_registers` — what their sources register.
-/

namespace ClientBindings

open Emission

/-! ## Comments

Comments ask for the names of releases only. -/

namespace Comment

theorem branding_registers (releases : List Release) (codeName : Json) :
    (branding releases codeName).Registers [] := by
  unfold branding
  split
  · exact Registers.fail _ _
  · split
    · exact Registers.pure _
    · exact (Registers.note _).bind_quiet fun _ _ => Registers.pure _

theorem deprecatedRelease_registers (releases : List Release) (life : Lifecycle) :
    (deprecatedRelease releases life).Registers [] := by
  unfold deprecatedRelease
  split
  · exact branding_registers _ _
  · exact Registers.pure _

theorem deprecationMark_registers (releases : List Release) (life : Lifecycle) :
    (deprecationMark releases life).Registers [] := by
  unfold deprecationMark
  refine (deprecatedRelease_registers _ _).bind_quiet fun release _ => ?_
  split <;> exact Registers.pure _

theorem sentence_registers (releases : List Release) (opening : String) (release : Json) :
    (sentence releases opening release).Registers [] := by
  unfold sentence
  split
  · exact (branding_registers _ _).bind_quiet fun _ _ => Registers.pure _
  · exact Registers.pure _

theorem publishedInfo_registers (releases : List Release) (life : Lifecycle) :
    (publishedInfo releases life).Registers [] := by
  unfold publishedInfo
  refine (sentence_registers _ _ _).bind_quiet fun _ _ => ?_
  exact (sentence_registers _ _ _).bind_quiet fun _ _ => Registers.pure _

end Comment

/-! ## Records -/

namespace Source

theorem mapEntry_registers (s : Settings) (leaf : Leaf) :
    (mapEntry s leaf).Registers leaf.field.ty.registrations := by
  unfold mapEntry
  exact (Ty.defaultValue_registers _ _).quiet_after fun _ _ => Registers.pure _

theorem declaration_registers (s : Settings) (leaf : Leaf) :
    (declaration s leaf).Registers leaf.field.ty.registrations := by
  unfold declaration
  refine (Ty.javaType_registers _).quiet_after fun _ _ => ?_
  refine (Comment.publishedInfo_registers _ _).bind_quiet fun _ _ => ?_
  refine (Registers.liftM _).bind_quiet fun _ _ => ?_
  dsimp only
  -- A declaration is marked as deprecated or not, and the mark mentions no types.
  split
  · refine Registers.bind_quiet ?_ fun _ _ => Registers.pure _
    exact (Comment.deprecationMark_registers _ _).map _
  · exact (Registers.pure _).bind_quiet fun _ _ => Registers.pure _

end Source

/-- What is registered for leaves. -/
def leafRegistrations (leaves : List Leaf) : List Registration :=
  leaves.flatMap fun leaf => leaf.field.ty.registrations

theorem ApiClass.namedLeaves_eq_ok {cls : ApiClass} {leaves : List Leaf}
    (h : cls.namedLeaves = .ok leaves) : leaves = cls.leaves := by
  unfold namedLeaves at h
  split at h
  · exact (Except.ok.inj h).symm
  · simp at h

namespace Source

theorem RecordSource.ofClass_registers (s : Settings) (cls : ApiClass)
    (synthetic : List SyntheticMember) :
    (RecordSource.ofClass s cls synthetic).Registers
      (.record cls.name (layout cls.leaves synthetic) :: leafRegistrations cls.leaves) := by
  unfold RecordSource.ofClass
  refine (Registers.liftM _).bind_quiet fun leaves hleaves => ?_
  obtain rfl := ApiClass.namedLeaves_eq_ok hleaves
  refine (Registers.meet _).bind fun _ _ => ?_
  refine (Registers.liftM _).bind_quiet fun name _ => ?_
  -- The entries of the map and the declarations go through the same types.
  refine Registers.congr (leafRegistrations cls.leaves ++ leafRegistrations cls.leaves) ?_
    (by simp [leafRegistrations])
  refine (Registers.mapM fun leaf _ => mapEntry_registers s leaf).bind fun _ _ => ?_
  refine (Registers.mapM fun leaf _ => declaration_registers s leaf).quiet_after fun _ _ => ?_
  exact (Registers.note _).bind_quiet fun _ _ => Registers.pure _

end Source

/-! ## Messages -/

/-- The types that a message mentions: that of its answer and those of its parameters. -/
def Message.types (m : Message) : List Ty :=
  (m.answer.map Answer.ty).toList ++ m.params.map Param.ty

namespace Source

theorem mandatoryCount_le (params : List Param) : mandatoryCount params ≤ params.length := by
  unfold mandatoryCount
  simpa using (List.dropWhile_sublist Param.optional (l := params.reverse)).length_le

/-- Nothing is left out of the first overload. -/
theorem self_mem_overloads (params : List Param) : params ∈ overloads params := by
  have bound := mandatoryCount_le params
  refine List.mem_map.mpr ⟨0, List.mem_range.mpr ?_, ?_⟩
  · omega
  · simp

theorem mem_of_mem_overloads {params overload : List Param} (h : overload ∈ overloads params)
    {p : Param} (hp : p ∈ overload) : p ∈ params := by
  obtain ⟨left, _, rfl⟩ := List.mem_map.mp h
  exact List.mem_of_mem_take hp

theorem returnType_registers (cls : ApiClass) (message : Message) :
    (returnType cls message).Registers
      (registrationsOfTypes (message.answer.map Answer.ty).toList) := by
  unfold returnType
  refine (javaTypeOrVoid_registers _).quiet_after fun _ _ => ?_
  exact (Registers.liftM _).bind_quiet fun _ _ => Registers.pure _

theorem parameter_registers (p : Param) : (parameter p).Registers p.ty.registrations := by
  unfold parameter
  refine (Ty.javaType_registers _).quiet_after fun _ _ => ?_
  exact (Registers.liftM _).bind_quiet fun _ _ => Registers.pure _

theorem paramDoc_registers (s : Settings) (p : Param) : (paramDoc s p).Registers [] := by
  unfold paramDoc Comment.describedOr
  refine Registers.bind_quiet ?_ fun _ _ => ?_
  · split
    · exact Registers.liftM _
    · exact Registers.pure _
  · exact (Comment.publishedInfo_registers _ _).bind_quiet fun _ _ => Registers.pure _

/-- The answers whose types a comment shows: one without a description, of a method that waits for
it. -/
def shownAnswers (message : Message) (async : Bool) : List Ty :=
  ((message.answer.filter fun a => !async && !a.description.truthy).map Answer.ty).toList

theorem returnDoc_registers (cls : ApiClass) (message : Message) (async : Bool) :
    (returnDoc cls message async).Registers
      (registrationsOfTypes (shownAnswers message async)) := by
  unfold returnDoc shownAnswers
  cases async with
  | true =>
    -- An asynchronous method answers with a task, whose type is not of the schema.
    cases message.answer <;> exact Registers.pure _
  | false =>
    have whole := returnType_registers cls message
    cases hanswer : message.answer with
    | none => exact Registers.pure _
    | some answer =>
      rw [hanswer] at whole
      unfold Comment.describedOr
      cases hset : answer.description.truthy with
      | true =>
        simp only [Option.filter, hset]
        exact (Registers.liftM _).bind_quiet fun _ _ => Registers.pure _
      | false =>
        -- Without a description, the comment falls back to the type of the answer.
        simp only [Option.filter, hset]
        exact whole.quiet_after fun _ _ => Registers.pure _

theorem exceptionName_registers (e : ErrorDef) : (exceptionName e).Registers [] := by
  unfold exceptionName
  exact (Registers.liftM _).bind_quiet fun _ _ => Registers.pure _

theorem errorDoc_registers (e : ErrorDef) : (errorDoc e).Registers [] := by
  unfold errorDoc
  refine (exceptionName_registers e).bind_quiet fun _ _ => ?_
  exact (Registers.liftM _).bind_quiet fun _ _ => Registers.pure _

theorem methodDoc_registers (s : Settings) (cls : ApiClass) (message : Message)
    (params : List Param) (async : Bool) :
    (methodDoc s cls message params async).Registers
      (registrationsOfTypes (shownAnswers message async)) := by
  unfold methodDoc
  refine (Registers.liftM _).bind_quiet fun _ _ => ?_
  refine (Comment.publishedInfo_registers _ _).bind_quiet fun _ _ => ?_
  refine (Comment.deprecatedRelease_registers _ _).bind_quiet fun _ _ => ?_
  refine Registers.bind_quiet ?_ fun _ _ => ?_
  · exact (Registers.mapM fun p _ => paramDoc_registers s p).congr _ (by simp)
  refine (returnDoc_registers cls message async).quiet_after fun _ _ => ?_
  refine Registers.bind_quiet ?_ fun _ _ => Registers.pure _
  exact (Registers.mapM fun e _ => errorDoc_registers e).congr _ (by simp)

/-- What a method registers: its answer and its parameters.  The comment shows no further types. -/
theorem ofMessage_registers (s : Settings) (cls : ApiClass) (message : Message)
    (params : List Param) (async : Bool) :
    (MethodSource.ofMessage s cls message params async).Registers
      (registrationsOfTypes ((message.answer.map Answer.ty).toList ++ params.map Param.ty)) := by
  have shown : ∀ ty ∈ shownAnswers message async, ty ∈ (message.answer.map Answer.ty).toList := by
    intro ty hty
    cases hanswer : message.answer with
    | none => simp [shownAnswers, hanswer] at hty
    | some answer =>
      simp only [shownAnswers, hanswer, Option.filter] at hty
      split at hty
      · exact hty
      · simp at hty
  unfold MethodSource.ofMessage
  refine Registers.congr (registrationsOfTypes (message.answer.map Answer.ty).toList ++
    (params.flatMap (fun p => p.ty.registrations) ++
      registrationsOfTypes (shownAnswers message async))) ?_ ?_
  · refine (returnType_registers cls message).bind fun _ _ => ?_
    refine (Registers.liftM _).bind_quiet fun _ _ => ?_
    refine (Registers.mapM fun p _ => parameter_registers p).bind fun _ _ => ?_
    refine (methodDoc_registers s cls message params async).quiet_after fun _ _ => ?_
    refine (Comment.deprecationMark_registers _ _).bind_quiet fun _ _ => ?_
    refine Registers.bind_quiet ?_ fun _ _ => ?_
    · exact (Registers.mapM fun e _ => exceptionName_registers e).congr _ (by simp)
    · exact (Registers.note _).bind_quiet fun _ _ => Registers.pure _
  · intro r
    simp only [registrationsOfTypes, List.mem_append, List.mem_flatMap, List.mem_map]
    constructor
    · rintro (⟨ty, hty, hr⟩ | ⟨p, hp, hr⟩ | ⟨ty, hty, hr⟩)
      · exact ⟨ty, Or.inl hty, hr⟩
      · exact ⟨p.ty, Or.inr ⟨p, hp, rfl⟩, hr⟩
      · exact ⟨ty, Or.inl (shown ty hty), hr⟩
    · rintro ⟨ty, hty | ⟨p, hp, rfl⟩, hr⟩
      · exact Or.inl ⟨ty, hty, hr⟩
      · exact Or.inr (Or.inl ⟨p, hp, hr⟩)

theorem overloadMethods_registers (s : Settings) (cls : ApiClass) (message : Message)
    (params : List Param) :
    (overloadMethods s cls message params).Registers
      (registrationsOfTypes ((message.answer.map Answer.ty).toList ++ params.map Param.ty)) := by
  have sync := ofMessage_registers s cls message params false
  unfold overloadMethods
  dsimp only
  split
  · refine Registers.congr _ (((ofMessage_registers s cls message params true).map _).bind
      fun _ _ => sync.quiet_after fun _ _ => Registers.pure _) (by simp)
  · exact (Registers.pure _).bind_quiet fun _ _ => sync.quiet_after fun _ _ => Registers.pure _

/-- The overloads of a message mention its types and no others. -/
theorem messageMethods_registers (s : Settings) (cls : ApiClass) (message : Message) :
    (messageMethods s cls message).Registers (registrationsOfTypes message.types) := by
  have each : ((overloads message.params).mapM (overloadMethods s cls message)).Registers _ :=
    Registers.mapM fun params _ => overloadMethods_registers s cls message params
  unfold messageMethods
  refine Registers.quiet_after (each.congr _ fun r => ?_) fun _ _ => Registers.pure _
  simp only [registrationsOfTypes, Message.types, List.mem_flatMap]
  constructor
  · -- An overload takes its parameters from those of the message.
    rintro ⟨params, hparams, ty, hty, hr⟩
    refine ⟨ty, ?_, hr⟩
    rcases List.mem_append.mp hty with hty | hty
    · exact List.mem_append_left _ hty
    · obtain ⟨p, hp, rfl⟩ := List.mem_map.mp hty
      exact List.mem_append_right _ (List.mem_map_of_mem (mem_of_mem_overloads hparams hp))
  · -- The overload that leaves nothing out mentions them all.
    rintro ⟨ty, hty, hr⟩
    exact ⟨message.params, self_mem_overloads _, ty, hty, hr⟩

end Source

/-! ## Classes -/

namespace ApiClass

/-- Whether a class is that of events. -/
def isEvent (cls : ApiClass) : Bool :=
  match cls.name with
  | .text name => Source.isEvent name
  | _ => false

/-- Whether the record of a class needs a member for the kind of an object that its schema does not
declare. -/
def lacksKind (cls : ApiClass) : Bool :=
  cls.isEvent && !cls.leaves.any fun leaf => leaf.path = Source.eventKindField

/-- The members of a record that the schema does not declare. -/
def syntheticMembers (cls : ApiClass) : List SyntheticMember :=
  (if cls.lacksKind then [Source.eventKindMember Scalar.string.javaType] else []) ++
    (if cls.isEvent then [Source.snapshotMember] else [])

/-- Wire names and types of what the record of a class is decoded from. -/
def recordLayout (cls : ApiClass) : List (String × Ty) :=
  cls.leaves.map (fun leaf => (leaf.path, leaf.field.ty)) ++
    (if cls.lacksKind then [(Source.eventKindField, .scalar .string)] else [])

/-- The types that the record of a class mentions. -/
def recordTypes (cls : ApiClass) : List Ty :=
  if cls.isEmpty then [] else cls.recordLayout.map Prod.snd

theorem leaves_of_isEmpty {cls : ApiClass} (empty : cls.isEmpty = true) : cls.leaves = [] := by
  unfold leaves
  rw [List.isEmpty_iff.mp empty]
  rfl

theorem isEmpty_of_leaf {cls : ApiClass} {leaf : Leaf} (h : leaf ∈ cls.leaves) :
    cls.isEmpty = false := by
  by_contra filled
  have none : cls.leaves = [] := leaves_of_isEmpty (by simpa using filled)
  simp [none] at h

theorem mem_recordTypes {cls : ApiClass} {ty : Ty} :
    ty ∈ cls.recordTypes ↔ cls.isEmpty = false ∧
      ((∃ leaf ∈ cls.leaves, leaf.field.ty = ty) ∨ cls.lacksKind = true ∧ ty = .scalar .string) := by
  unfold recordTypes recordLayout
  cases cls.isEmpty <;> cases cls.lacksKind <;> simp [eq_comm]

/-- The types that a class mentions. -/
def types (cls : ApiClass) : List Ty :=
  cls.recordTypes ++ cls.messages.flatMap Message.types

/-- The record that is registered for a class, if it has one. -/
def recordRegistrations (cls : ApiClass) : List Registration :=
  if cls.isEmpty then [] else [.record cls.name cls.recordLayout]

end ApiClass

theorem Json.asText_eq_ok {j : Json} {s : String} (h : j.asText = .ok s) : j = .text s := by
  cases j with
  | text t => rw [Except.ok.inj h]
  | _ => simp [Json.asText] at h

theorem ApiClass.isEvent_of_asText {cls : ApiClass} {name : String}
    (h : cls.name.asText = .ok name) : cls.isEvent = Source.isEvent name := by
  simp [isEvent, Json.asText_eq_ok h]

namespace Source

theorem syntheticMembers_eq_ok {cls : ApiClass} {members : List SyntheticMember}
    (h : (syntheticMembers cls).result = .ok members) : members = cls.syntheticMembers := by
  obtain ⟨name, hname, h⟩ := result_bind_eq_ok.mp h
  have named : cls.isEvent = isEvent name := ApiClass.isEvent_of_asText hname
  unfold ApiClass.syntheticMembers ApiClass.lacksKind
  cases hevent : isEvent name with
  | false =>
    simp only [hevent, Bool.false_eq_true, if_false, result_pure] at h
    simp [named, hevent, Except.ok.inj h]
  | true =>
    simp only [hevent, if_true] at h
    obtain ⟨leaves, hleaves, h⟩ := result_bind_eq_ok.mp h
    obtain rfl := ApiClass.namedLeaves_eq_ok hleaves
    cases hkind : cls.leaves.any fun leaf => leaf.path = eventKindField with
    | true =>
      simp only [hkind, if_true] at h
      simpa [named, hevent] using (Except.ok.inj h).symm
    | false =>
      simp only [hkind, Bool.false_eq_true, if_false] at h
      simpa [named, hevent] using (Except.ok.inj h).symm

theorem syntheticMembers_registers (cls : ApiClass) :
    (syntheticMembers cls).Registers
      (if cls.lacksKind then (Ty.scalar .string).registrations else []) := by
  unfold syntheticMembers
  refine (Registers.liftM _).bind_quiet fun name hname => ?_
  have named : cls.isEvent = isEvent name := ApiClass.isEvent_of_asText hname
  unfold ApiClass.lacksKind
  rw [named]
  cases hevent : isEvent name with
  | false => exact Registers.pure _
  | true =>
    -- Only a kind that the schema does not declare has to be resolved, and it is a string.
    refine (Registers.liftM _).bind_quiet fun leaves hleaves => ?_
    obtain rfl := ApiClass.namedLeaves_eq_ok hleaves
    dsimp only
    cases hkind : cls.leaves.any fun leaf => leaf.path = eventKindField with
    | true => exact (Registers.pure _).bind_quiet fun _ _ => Registers.pure _
    | false =>
      refine Registers.congr ((Ty.scalar .string).registrations) ?_ (by simp)
      refine (Ty.javaType_registers _).quiet_after fun _ _ => ?_
      exact (Registers.pure _).bind_quiet fun _ _ => Registers.pure _

theorem layout_eq_recordLayout (cls : ApiClass) :
    RecordSource.layout cls.leaves cls.syntheticMembers = cls.recordLayout := by
  unfold RecordSource.layout ApiClass.syntheticMembers ApiClass.recordLayout
  cases cls.lacksKind <;> cases cls.isEvent <;> rfl

theorem classDoc_registers (s : Settings) (cls : ApiClass) :
    (ClassSource.classDoc s cls).Registers [] := by
  unfold ClassSource.classDoc
  refine (Registers.liftM _).bind_quiet fun _ _ => ?_
  exact (Comment.publishedInfo_registers _ _).bind_quiet fun _ _ => Registers.pure _

theorem classRecord_registers (s : Settings) (cls : ApiClass) :
    (ClassSource.classRecord s cls).Registers
      (cls.recordRegistrations ++ registrationsOfTypes cls.recordTypes) := by
  unfold ClassSource.classRecord ApiClass.recordRegistrations ApiClass.recordTypes
  cases cls.isEmpty with
  | true => exact Registers.pure _
  | false =>
    refine Registers.congr ((if cls.lacksKind then (Ty.scalar .string).registrations else []) ++
      .record cls.name cls.recordLayout :: leafRegistrations cls.leaves) ?_ ?_
    · refine (syntheticMembers_registers cls).bind fun members hmembers => ?_
      rw [syntheticMembers_eq_ok hmembers, ← layout_eq_recordLayout]
      exact (RecordSource.ofClass_registers s cls _).quiet_after fun _ _ => Registers.pure _
    · intro r
      cases hlacks : cls.lacksKind <;>
        simp [hlacks, ApiClass.recordLayout, registrationsOfTypes, leafRegistrations, or_comm,
          or_left_comm]

/-- What a class registers: its record, and the types that it mentions with their parts. -/
theorem ofClass_registers (s : Settings) (cls : ApiClass) :
    (ClassSource.ofClass s cls).Registers
      (cls.recordRegistrations ++ registrationsOfTypes cls.types) := by
  unfold ClassSource.ofClass
  refine (Registers.liftM _).bind_quiet fun _ _ => ?_
  refine (classDoc_registers s cls).bind_quiet fun _ _ => ?_
  refine Registers.congr _ ((classRecord_registers s cls).bind fun _ _ => Registers.quiet_after
    (Registers.mapM fun m _ => messageMethods_registers s cls m) fun _ _ => Registers.pure _) ?_
  intro r
  simp [ApiClass.types, registrationsOfTypes, List.flatMap_assoc]

/-- A class whose source completes is named and described by texts. -/
theorem texts_of_ofClass {s : Settings} {cls : ApiClass} {source : ClassSource}
    (h : (ClassSource.ofClass s cls).result = .ok source) :
    cls.name.isText = true ∧ cls.description.isText = true := by
  obtain ⟨name, hname, h⟩ := result_bind_eq_ok.mp h
  obtain ⟨doc, hdoc, _⟩ := result_bind_eq_ok.mp h
  obtain ⟨shown, hshown, _⟩ := result_bind_eq_ok.mp hdoc
  obtain ⟨description, hdescription, _⟩ := Except.bind_eq_ok.mp hshown
  rw [Json.asText_eq_ok hname, Json.asText_eq_ok hdescription]
  exact ⟨rfl, rfl⟩

end Source
end ClientBindings
