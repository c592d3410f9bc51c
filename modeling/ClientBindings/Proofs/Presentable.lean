import ClientBindings.Proofs.Independence
import ClientBindings.Proofs.Texts
import ClientBindings.Proofs.Verdict

/-!
# Presentable — what the source of a class asks of it

A document is read without a look at much of what it says, and the source of a class asks for more:
names have to be texts, and so do descriptions, except that those of parameters and of answers need
not be set; releases have to be names; and the values of enumerations have to be scalars.  A member
that is a record stops the class for a fault of the schema, and nothing is asked of what would come
behind it.

* `Json.TextIfSet`, `Json.NameIfSet`, `Lifecycle.Presentable` — what comments ask for;
* `Param.Presentable`, `Message.Presents` — what methods ask for;
* `Ty.isBare`, `ApiClass.isBare` — types without a default, and classes with such a member;
* `ApiClass.PresentsRecord`, `ApiClass.Presentable` — what a record and a class ask for;
* `Source.ClassSource.ofClass_judged` — how the source of a class ends.
-/

namespace ClientBindings

open Emission

/-! ## Types -/

namespace Ty

/-- A type all of whose scalar kinds are known. -/
def HasScalars (ty : Ty) : Prop :=
  ∀ kind, primitive kind ∈ ty.parts → ∃ s : Scalar, kind = s.name

theorem apt_of_hasScalars {P : Fault → Prop} {ty : Ty} (scalars : ty.HasScalars)
    (plain : ty.isPlain = true) : ty.Apt P := by
  refine ⟨plain, ?_⟩
  intro kind hkind unknown
  obtain ⟨s, rfl⟩ := scalars kind hkind
  rw [Scalar.ofName?_name] at unknown
  cases unknown

theorem hasScalars_of_known {enums : Table (List EnumValue)} {ty : Ty} (known : ty.Known enums) :
    ty.HasScalars :=
  fun _ hkind => known _ hkind

theorem hasScalars_scalar (s : Scalar) : (scalar s).HasScalars := by
  intro kind hkind
  cases List.mem_singleton.mp hkind
  exact ⟨s, rfl⟩

/-- Whether a type is a record, which has no default. -/
def isBare (ty : Ty) : Bool :=
  match ty.eraseOption with
  | record _ => true
  | _ => false

theorem isBare_iff {ty : Ty} : ty.isBare = true ↔ ∃ cls, ty.eraseOption = record cls := by
  unfold isBare
  split
  · next cls same => exact iff_of_true rfl ⟨cls, same⟩
  · next other =>
    refine iff_of_false Bool.false_ne_true ?_
    rintro ⟨cls, same⟩
    exact other cls same

theorem result_defaultValue_of_record (overrides : Overrides) {ty : Ty} {cls : String}
    (bare : ty.eraseOption = record cls) :
    (ty.defaultValue overrides).result = .error (.recordWithoutDefault cls) := by
  rw [result_defaultValue_eraseOption, bare]
  rfl

theorem exists_ok_of_sound {α : Type} {m : Emission α} (h : m.Sound fun _ => False) :
    ∃ a, m.result = .ok a := by
  cases hm : m.result with
  | ok a => exact ⟨a, rfl⟩
  | error fault => exact (h.faults fault hm).elim

/-- A registry asks of a type that it can be looked up. -/
theorem IsResolution.needs {ty : Ty} {m : Emission String} (h : ty.IsResolution m)
    (sound : ty.isPlain = true → m.Sound fun _ => False) : m.Needs (ty.isPlain = true) := by
  unfold Needs Judged
  rw [h.settled_eq]
  by_cases plain : ty.isPlain = true
  · obtain ⟨a, ha⟩ := exists_ok_of_sound (sound plain)
    rw [if_pos plain, ha]
    exact (Except.Judged.ok a).congr (iff_true_intro plain) Iff.rfl
  · rw [if_neg plain]
    exact (Except.Judged.error (by decide)).congr (iff_false_intro plain) Iff.rfl

theorem javaType_needs {ty : Ty} (scalars : ty.HasScalars) :
    ty.javaType.Needs (ty.isPlain = true) := by
  refine ty.isResolution_javaType.needs ?_
  intro plain
  exact javaType_sound (apt_of_hasScalars scalars plain)

theorem defaultValue_judged (overrides : Overrides) {ty : Ty} (scalars : ty.HasScalars) :
    (ty.defaultValue overrides).Judged (ty.isPlain = true) (ty.isBare = true) := by
  have resolution := ty.isResolution_defaultValue overrides
  by_cases bare : ty.isBare = true
  · obtain ⟨cls, same⟩ := isBare_iff.mp bare
    have allowed : Fault.Reported (.recordWithoutDefault cls) := rfl
    unfold Judged
    rw [resolution.settled_eq]
    by_cases plain : ty.isPlain = true
    · rw [if_pos plain, result_defaultValue_of_record overrides same]
      exact (Except.Judged.stop allowed).congr (iff_true_intro plain) (iff_true_intro bare)
    · rw [if_neg plain]
      refine ⟨?_, ?_, ?_⟩
      · intro fine
        exact absurd fine plain
      · intro fine
        exact absurd fine plain
      · intro _
        exact ⟨.notAName, rfl, by decide⟩
  · refine (resolution.needs ?_).congr Iff.rfl (iff_false_intro bare)
    intro plain
    refine defaultValue_sound (apt_of_hasScalars scalars plain) ?_ overrides
    intro cls same
    exact bare (isBare_iff.mpr ⟨cls, same⟩)

end Ty

theorem javaTypeOrVoid_needs {ty : Option Ty} (scalars : ∀ t ∈ ty, t.HasScalars) :
    (javaTypeOrVoid ty).Needs (∀ t ∈ ty, t.isPlain = true) := by
  cases ty with
  | none => exact (Judged.pure "void").congr (by simp) Iff.rfl
  | some t => exact (Ty.javaType_needs (scalars t rfl)).congr (by simp) Iff.rfl

/-! ## Comments -/

namespace Json

theorem asText_needs (j : Json) : Except.Needs Fault.Reported (j.isText = true) j.asText := by
  cases j with
  | text s => exact (Except.Judged.ok s).congr (iff_true_intro rfl) Iff.rfl
  | _ => exact (Except.Judged.error (by decide)).congr (iff_false_intro Bool.false_ne_true) Iff.rfl

/-- A text, or nothing that counts as set. -/
def TextIfSet (j : Json) : Prop :=
  j.truthy = true → j.isText = true

/-- A name, or nothing that counts as set. -/
def NameIfSet (j : Json) : Prop :=
  j.truthy = true → j.isScalar = true

end Json

/-- A lifecycle whose releases can be looked up, where they are set. -/
structure Lifecycle.Presentable (life : Lifecycle) : Prop where
  published : life.published.NameIfSet
  deprecated : life.deprecated.NameIfSet

namespace Comment

variable {releases : List Release} {life : Lifecycle}

theorem described_needs (description : Json) :
    Except.Needs Fault.Reported (description.isText = true)
      (described description) :=
  (Json.asText_needs description).bind_pure escape

/-- A description that does not count as set is not read. -/
theorem describedOr_needs (description : Json) {otherwise : Emission String}
    (h : otherwise.Needs True) :
    (describedOr description otherwise).Needs description.TextIfSet := by
  have chosen : (describedOr description otherwise).Needs _ :=
    Judged.needs_ite (fun _ => Judged.liftM (described_needs description)) fun _ => h
  exact chosen.congr (by simp [Json.TextIfSet]) Iff.rfl

theorem branding_needs (codeName : Json) :
    (branding releases codeName).Needs (codeName.isScalar = true) := by
  unfold branding
  cases named : codeName.isScalar with
  | false => exact (Except.Judged.error (by decide)).congr (by simp) Iff.rfl
  | true =>
    simp only [Bool.not_true, Bool.false_eq_true, if_false]
    split
    · exact (Judged.pure _).congr (by simp) Iff.rfl
    · exact ((Judged.note _).bind_pure fun _ => codeName).congr (by simp) Iff.rfl

theorem deprecatedRelease_needs :
    (deprecatedRelease releases life).Needs life.deprecated.NameIfSet := by
  have chosen : (deprecatedRelease releases life).Needs _ :=
    Judged.needs_ite (fun _ => branding_needs life.deprecated) fun _ => Judged.pure _
  exact chosen.congr (by simp [Json.NameIfSet]) Iff.rfl

theorem deprecationMark_needs :
    (deprecationMark releases life).Needs life.deprecated.NameIfSet := by
  have chain : (deprecationMark releases life).Needs _ :=
    deprecatedRelease_needs.needs_bind fun release _ => by
      split
      · exact Judged.pure ""
      · exact Judged.pure _
  exact chain.congr (by simp) Iff.rfl

theorem sentence_needs (opening : String) (release : Json) :
    (sentence releases opening release).Needs release.NameIfSet := by
  have chosen : (sentence releases opening release).Needs _ :=
    Judged.needs_ite (fun _ => (branding_needs release).bind_pure _) fun _ => Judged.pure _
  exact chosen.congr (by simp [Json.NameIfSet]) Iff.rfl

theorem publishedInfo_needs : (publishedInfo releases life).Needs life.Presentable := by
  have chain : (publishedInfo releases life).Needs _ :=
    (sentence_needs "First published in " life.published).needs_bind fun _ _ =>
      (sentence_needs "Deprecated since " life.deprecated).bind_pure _
  refine chain.congr ?_ Iff.rfl
  exact ⟨fun h => ⟨h.published, h.deprecated⟩, fun h => ⟨h.1, h.2⟩⟩

end Comment

/-! ## Records -/

/-- Whether a leaf is a record, for which the map of the class has no default. -/
def Leaf.isBare (leaf : Leaf) : Bool :=
  leaf.field.ty.isBare

/-- A leaf that can be shown in a comment. -/
structure Leaf.Presentable (leaf : Leaf) : Prop where
  lifecycle : leaf.field.lifecycle.Presentable
  description : leaf.field.description.isText = true

namespace ApiClass

/-- Whether a member of a class is a record, so that the class has no source. -/
def isBare (cls : ApiClass) : Bool :=
  cls.leaves.any Leaf.isBare

theorem isBare_iff {cls : ApiClass} :
    cls.isBare = true ↔ ∃ leaf ∈ cls.leaves, leaf.isBare = true :=
  List.any_eq_true

/-- A class whose record asks for nothing that is missing.  The first member without a default ends
the record, before a comment is written. -/
structure PresentsRecord (cls : ApiClass) : Prop where
  named : ∀ leaf ∈ cls.leaves, leaf.isNamed = true
  types : ∀ leaf ∈ through Leaf.isBare cls.leaves, leaf.field.ty.isPlain = true
  comments : ¬cls.isBare = true → ∀ leaf ∈ cls.leaves, leaf.Presentable

theorem namedLeaves_needs (cls : ApiClass) :
    Except.Needs Fault.Reported (∀ leaf ∈ cls.leaves, leaf.isNamed = true) cls.namedLeaves := by
  unfold namedLeaves
  by_cases named : cls.leaves.all Leaf.isNamed = true
  · rw [if_pos named]
    exact (Except.Judged.ok _).congr (iff_true_intro (List.all_eq_true.mp named)) Iff.rfl
  · rw [if_neg named]
    refine (Except.Judged.error (by decide)).congr (iff_false_intro ?_) Iff.rfl
    exact fun all => named (List.all_eq_true.mpr all)

end ApiClass

namespace Source

variable {s : Settings} {cls : ApiClass}

theorem mapEntry_judged {leaf : Leaf} (scalars : leaf.field.ty.HasScalars) :
    (mapEntry s leaf).Judged (leaf.field.ty.isPlain = true) (leaf.isBare = true) :=
  (Ty.defaultValue_judged s.overrides scalars).bind_pure _

theorem declaration_needs {leaf : Leaf} (scalars : leaf.field.ty.HasScalars) :
    (declaration s leaf).Needs (leaf.field.ty.isPlain = true ∧ leaf.Presentable) := by
  have chain : (declaration s leaf).Needs _ :=
    (Ty.javaType_needs scalars).needs_bind fun _ _ =>
      Comment.publishedInfo_needs.needs_bind fun _ _ =>
        (Judged.liftM (Comment.described_needs _)).needs_bind fun _ _ =>
          Judged.needs_ite (fun _ => (Comment.deprecationMark_needs.map some).bind_pure _)
            fun _ => (Judged.pure none).bind_pure _
  refine chain.congr ?_ Iff.rfl
  -- A mark asks for the release of deprecation, which the comment has asked for already.
  constructor
  · rintro ⟨plain, lifecycle, description⟩
    exact ⟨plain, lifecycle, description, fun _ => lifecycle.deprecated, fun _ => trivial⟩
  · rintro ⟨plain, lifecycle, description, _⟩
    exact ⟨plain, lifecycle, description⟩

theorem syntheticMembers_needs (cls : ApiClass) : (syntheticMembers cls).Needs
    (cls.name.isText = true ∧ (cls.isEvent = true → ∀ leaf ∈ cls.leaves, leaf.isNamed = true)) := by
  -- A kind that the schema does not declare is a string, which has a type.
  have kind : (Ty.scalar .string).javaType.Needs True :=
    (Ty.javaType_needs (Ty.hasScalars_scalar .string)).congr (iff_true_intro rfl).symm Iff.rfl
  have chain : (syntheticMembers cls).Needs _ :=
    (Judged.liftM (Json.asText_needs cls.name)).needs_bind fun name hname => by
      rw [← ApiClass.isEvent_of_asText hname]
      exact Judged.needs_ite (fun _ => (Judged.liftM cls.namedLeaves_needs).needs_bind fun _ _ => by
        dsimp only
        split
        · exact Judged.pure ([] ++ [snapshotMember])
        · exact kind.bind_pure fun javaType => [eventKindMember javaType] ++ [snapshotMember])
        fun _ => Judged.pure _
  exact chain.congr (by simp) Iff.rfl

theorem RecordSource.ofClass_judged (scalars : ∀ leaf ∈ cls.leaves, leaf.field.ty.HasScalars)
    (named : cls.name.isText = true) (synthetic : List SyntheticMember) :
    (RecordSource.ofClass s cls synthetic).Judged cls.PresentsRecord (cls.isBare = true) := by
  have chain : (RecordSource.ofClass s cls synthetic).Judged _ _ :=
    (Judged.liftM cls.namedLeaves_needs).needs_bind fun leaves hleaves => by
      obtain rfl := ApiClass.namedLeaves_eq_ok hleaves
      exact (Judged.meet _).needs_bind fun _ _ =>
        (Judged.liftM (Json.asText_needs cls.name)).needs_bind fun _ _ =>
          (Judged.mapM fun leaf hleaf => mapEntry_judged (scalars leaf hleaf)).bind fun _ _ =>
            (Judged.needs_mapM fun leaf hleaf => declaration_needs (scalars leaf hleaf)).needs_bind
              fun _ _ => (Judged.note _).bind_pure _
  have layoutPlain : (Registration.record cls.name (layout cls.leaves synthetic)).isPlain = true :=
    Json.isScalar_of_isText named
  refine chain.congr ?_ (by simp [ApiClass.isBare_iff])
  constructor
  · intro presents
    refine ⟨presents.named, layoutPlain, named, presents.types, fun whole => ⟨?_, trivial⟩⟩
    have goes : ¬cls.isBare = true := fun bare => whole (ApiClass.isBare_iff.mp bare)
    have all : through Leaf.isBare cls.leaves = cls.leaves :=
      through_eq_self fun leaf hleaf bare => whole ⟨leaf, hleaf, bare⟩
    intro leaf hleaf
    exact ⟨presents.types leaf (all.symm ▸ hleaf), presents.comments goes leaf hleaf⟩
  · rintro ⟨names, _, _, types, comments⟩
    refine ⟨names, types, ?_⟩
    intro goes leaf hleaf
    exact ((comments fun bare => goes (ApiClass.isBare_iff.mpr bare)).1 leaf hleaf).2

end Source

/-! ## Messages -/

/-- A parameter that a method can declare and describe. -/
structure Param.Presentable (p : Param) : Prop where
  named : p.name.isText = true
  ty : p.ty.isPlain = true
  lifecycle : p.lifecycle.Presentable
  description : p.description.TextIfSet

/-- A message with a method for `params` that asks for nothing that is missing.  The comment of an
asynchronous method says nothing about the answer. -/
structure Message.Presents (m : Message) (params : List Param) (async : Bool) : Prop where
  named : m.name.isText = true
  description : m.description.isText = true
  lifecycle : m.lifecycle.Presentable
  params : ∀ p ∈ params, p.Presentable
  answer : ∀ a ∈ m.answer, a.ty.isPlain = true
  answered : async = false → ∀ a ∈ m.answer, a.description.TextIfSet
  errors : ∀ e ∈ m.errors, e.name.isText = true ∧ e.description.isText = true

namespace Source

variable {s : Settings} {cls : ApiClass} {message : Message}

theorem waitsForEvents_needs (cls : ApiClass) (message : Message) :
    Except.Needs Fault.Reported
      (cls.name.isText = true ∧ (cls.isEvent = true → message.name.isText = true))
      (waitsForEvents cls message) :=
  (Json.asText_needs cls.name).needs_bind fun name hname => by
    rw [ApiClass.isEvent_of_asText hname]
    split
    · next waits =>
      exact ((Json.asText_needs message.name).bind_pure _).congr (by simp [waits]) Iff.rfl
    · next other => exact (Except.Judged.ok false).congr (by simp [other]) Iff.rfl

theorem returnType_needs (named : cls.name.isText = true)
    (scalars : ∀ a ∈ message.answer, a.ty.HasScalars) : (returnType cls message).Needs
      ((∀ a ∈ message.answer, a.ty.isPlain = true) ∧
        (cls.isEvent = true → message.name.isText = true)) := by
  have known : ∀ ty ∈ message.answer.map Answer.ty, ty.HasScalars := by
    intro ty hty
    obtain ⟨answer, hanswer, rfl⟩ := Option.map_eq_some_iff.mp hty
    exact scalars answer hanswer
  have chain : (returnType cls message).Needs _ :=
    (javaTypeOrVoid_needs known).needs_bind fun _ _ =>
      (Judged.liftM (waitsForEvents_needs cls message)).bind_pure _
  refine chain.congr ?_ Iff.rfl
  cases message.answer <;> simp [named]

theorem parameter_needs {p : Param} (scalars : p.ty.HasScalars) :
    (parameter p).Needs (p.ty.isPlain = true ∧ p.name.isText = true) :=
  (Ty.javaType_needs scalars).needs_bind fun _ _ =>
    (Judged.liftM (Json.asText_needs p.name)).bind_pure _

theorem paramDoc_needs (s : Settings) (p : Param) :
    (paramDoc s p).Needs (p.description.TextIfSet ∧ p.lifecycle.Presentable) :=
  (Comment.describedOr_needs p.description (Judged.pure "No description")).needs_bind fun _ _ =>
    Comment.publishedInfo_needs.bind_pure _

/-- An answer without a description is shown by its type, which the method has resolved already. -/
theorem returnDoc_needs (shown : (returnType cls message).Needs True) (async : Bool) :
    (returnDoc cls message async).Needs
      (async = false → ∀ a ∈ message.answer, a.description.TextIfSet) := by
  unfold returnDoc
  cases async with
  | true => exact (Judged.pure _).congr (by simp) Iff.rfl
  | false =>
    cases message.answer with
    | none => exact (Judged.pure _).congr (by simp) Iff.rfl
    | some answer =>
      have chain := (Comment.describedOr_needs answer.description shown).bind_pure fun text =>
        [" @return " ++ text]
      exact chain.congr (by simp) Iff.rfl

theorem exceptionName_needs (e : ErrorDef) : (exceptionName e).Needs (e.name.isText = true) :=
  (Judged.liftM (Json.asText_needs e.name)).bind_pure _

theorem errorDoc_needs (e : ErrorDef) :
    (errorDoc e).Needs (e.name.isText = true ∧ e.description.isText = true) :=
  (exceptionName_needs e).needs_bind fun _ _ =>
    (Judged.liftM (Comment.described_needs e.description)).bind_pure _

variable {params : List Param}

theorem methodDoc_needs (shown : (returnType cls message).Needs True) (async : Bool) :
    (methodDoc s cls message params async).Needs (message.description.isText = true ∧
      message.lifecycle.Presentable ∧
      (∀ p ∈ params, p.description.TextIfSet ∧ p.lifecycle.Presentable) ∧
      (async = false → ∀ a ∈ message.answer, a.description.TextIfSet) ∧
      ∀ e ∈ message.errors, e.name.isText = true ∧ e.description.isText = true) := by
  have chain : (methodDoc s cls message params async).Needs _ :=
    (Judged.liftM (Comment.described_needs message.description)).needs_bind fun _ _ =>
      Comment.publishedInfo_needs.needs_bind fun _ _ =>
        Comment.deprecatedRelease_needs.needs_bind fun _ _ =>
          (Judged.needs_mapM fun p _ => paramDoc_needs s p).needs_bind fun _ _ =>
            (returnDoc_needs shown async).needs_bind fun _ _ =>
              (Judged.needs_mapM fun e _ => errorDoc_needs e).bind_pure _
  refine chain.congr ?_ Iff.rfl
  constructor
  · rintro ⟨description, lifecycle, rest⟩
    exact ⟨description, lifecycle, lifecycle.deprecated, rest⟩
  · rintro ⟨description, lifecycle, _, rest⟩
    exact ⟨description, lifecycle, rest⟩

theorem ofMessage_needs (named : cls.name.isText = true)
    (scalars : ∀ a ∈ message.answer, a.ty.HasScalars) (known : ∀ p ∈ params, p.ty.HasScalars)
    (async : Bool) :
    (MethodSource.ofMessage s cls message params async).Needs (message.Presents params async) := by
  have chain : (MethodSource.ofMessage s cls message params async).Needs _ :=
    (returnType_needs named scalars).needs_bind fun _ htype =>
      (Judged.liftM (Json.asText_needs message.name)).needs_bind fun _ _ =>
        (Judged.needs_mapM fun p hp => parameter_needs (known p hp)).needs_bind fun _ _ =>
          (methodDoc_needs (Judged.of_ok htype) async).needs_bind fun _ _ =>
            Comment.deprecationMark_needs.needs_bind fun _ _ =>
              (Judged.needs_mapM fun e _ => exceptionName_needs e).needs_bind fun _ _ =>
                (Judged.note _).bind_pure _
  refine chain.congr ?_ Iff.rfl
  constructor
  · intro presents
    refine ⟨⟨presents.answer, fun _ => presents.named⟩, presents.named, ?_, ?_,
      presents.lifecycle.deprecated, fun e he => (presents.errors e he).1, trivial⟩
    · intro p hp
      exact ⟨(presents.params p hp).ty, (presents.params p hp).named⟩
    · refine ⟨presents.description, presents.lifecycle, ?_, presents.answered, presents.errors⟩
      intro p hp
      exact ⟨(presents.params p hp).description, (presents.params p hp).lifecycle⟩
  · rintro ⟨⟨answer, _⟩, name, typed, ⟨description, lifecycle, shown, answered, errors⟩, _⟩
    refine ⟨name, description, lifecycle, ?_, answer, answered, errors⟩
    intro p hp
    exact ⟨(typed p hp).2, (typed p hp).1, (shown p hp).2, (shown p hp).1⟩

/-- The method that waits for its answer asks for everything that the asynchronous one does. -/
theorem overloadMethods_needs (named : cls.name.isText = true)
    (scalars : ∀ a ∈ message.answer, a.ty.HasScalars) (known : ∀ p ∈ params, p.ty.HasScalars) :
    (overloadMethods s cls message params).Needs (message.Presents params false) := by
  have sync := ofMessage_needs (s := s) named scalars known false
  have async := ofMessage_needs (s := s) named scalars known true
  have chain : (overloadMethods s cls message params).Needs _ :=
    Judged.needs_ite (fun _ => (async.map List.singleton).needs_bind fun _ _ => sync.bind_pure _)
      fun _ => (Judged.pure []).needs_bind fun _ _ => sync.bind_pure _
  refine chain.congr ?_ Iff.rfl
  constructor
  · intro presents
    refine ⟨fun _ => ⟨{ presents with answered := fun waits => ?_ }, presents⟩,
      fun _ => ⟨trivial, presents⟩⟩
    cases waits
  · rintro ⟨background, foreground⟩
    by_cases both : message.isAsync = true
    · exact (background both).2
    · exact (foreground both).2

theorem messageMethods_needs (named : cls.name.isText = true)
    (scalars : ∀ ty ∈ message.types, ty.HasScalars) :
    (messageMethods s cls message).Needs (message.Presents message.params false) := by
  have answer : ∀ a ∈ message.answer, a.ty.HasScalars := fun a ha =>
    scalars a.ty (Message.mem_types.mpr (Or.inl ⟨a, ha, rfl⟩))
  have params : ∀ p ∈ message.params, p.ty.HasScalars := fun p hp =>
    scalars p.ty (Message.mem_types.mpr (Or.inr ⟨p, hp, rfl⟩))
  have chain : (messageMethods s cls message).Needs _ :=
    (Judged.needs_mapM fun overload hoverload => overloadMethods_needs named answer fun p hp =>
      params p (mem_of_mem_overloads hoverload hp)).bind_pure _
  refine chain.congr ?_ Iff.rfl
  constructor
  · intro presents overload hoverload
    refine { presents with params := ?_ }
    intro p hp
    exact presents.params p (mem_of_mem_overloads hoverload hp)
  · -- Nothing is left out of the first overload.
    intro each
    exact each message.params (self_mem_overloads _)

end Source

/-! ## Classes -/

/-- A class whose source asks for nothing that is missing.  A record among its members ends the
source before a method is written. -/
structure ApiClass.Presentable (cls : ApiClass) : Prop where
  named : cls.name.isText = true
  description : cls.description.isText = true
  lifecycle : cls.lifecycle.Presentable
  record : cls.PresentsRecord
  messages : ¬cls.isBare = true → ∀ m ∈ cls.messages, m.Presents m.params false

namespace Source

variable {s : Settings} {cls : ApiClass}

theorem classDoc_needs (s : Settings) (cls : ApiClass) : (ClassSource.classDoc s cls).Needs
    (cls.description.isText = true ∧ cls.lifecycle.Presentable) :=
  (Judged.liftM (Comment.described_needs cls.description)).needs_bind fun _ _ =>
    Comment.publishedInfo_needs.bind_pure _

theorem classRecord_judged (scalars : ∀ ty ∈ cls.types, ty.HasScalars)
    (named : cls.name.isText = true) :
    (ClassSource.classRecord s cls).Judged cls.PresentsRecord (cls.isBare = true) := by
  unfold ClassSource.classRecord
  cases empty : cls.isEmpty with
  | true =>
    -- Without contents there are no leaves, of which nothing is asked.
    have bare : cls.isBare = false := by
      unfold ApiClass.isBare
      rw [ApiClass.leaves_of_isEmpty empty]
      rfl
    have presents : cls.PresentsRecord := by
      refine ⟨?_, ?_, fun _ => ?_⟩ <;> simp [ApiClass.leaves_of_isEmpty empty, through]
    exact (Judged.pure none).congr (iff_true_intro presents) (by simp [bare])
  | false =>
    have leaves : ∀ leaf ∈ cls.leaves, leaf.field.ty.HasScalars := fun leaf hleaf =>
      scalars leaf.field.ty (ApiClass.leaf_mem_types hleaf)
    have chain := (syntheticMembers_needs cls).needs_bind fun synthetic _ =>
      (RecordSource.ofClass_judged (s := s) leaves named synthetic).bind_pure some
    refine chain.congr ?_ Iff.rfl
    exact ⟨fun presents => ⟨⟨named, fun _ => presents.named⟩, presents⟩, fun all => all.2⟩

/-- The source of a class of known types can be told from the class: it completes, a record among the
members stops it, or something is not what a source asks for. -/
theorem ClassSource.ofClass_judged (scalars : ∀ ty ∈ cls.types, ty.HasScalars) :
    (ClassSource.ofClass s cls).Judged cls.Presentable (cls.isBare = true) := by
  have methods : ∀ m ∈ cls.messages, ∀ ty ∈ m.types, ty.HasScalars := fun m hm ty hty =>
    scalars ty (ApiClass.message_mem_types hm hty)
  have chain : (ClassSource.ofClass s cls).Judged _ _ :=
    (Judged.liftM (Json.asText_needs cls.name)).needs_bind fun name hname => by
      have named : cls.name.isText = true := by
        rw [Json.asText_eq_ok hname]
        rfl
      exact (classDoc_needs s cls).needs_bind fun _ _ =>
        (classRecord_judged scalars named).bind fun _ _ =>
          (Judged.needs_mapM fun m hm => messageMethods_needs named (methods m hm)).bind_pure _
  refine chain.congr ?_ (by simp)
  constructor
  · intro presents
    exact ⟨presents.named, ⟨presents.description, presents.lifecycle⟩, presents.record,
      presents.messages⟩
  · rintro ⟨named, ⟨description, lifecycle⟩, record, messages⟩
    exact ⟨named, description, lifecycle, record, messages⟩

end Source
end ClientBindings
