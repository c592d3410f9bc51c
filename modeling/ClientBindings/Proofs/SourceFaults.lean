import ClientBindings.Proofs.Snapshot

/-!
# SourceFaults — why a class has no source

Generating a source stops for two reasons only, as long as names are texts: a member is a record,
which has no default, or a description is not a text.  All scalar kinds are known, and a registry can
look up whatever is registered.

* `Ty.Resolves` — a type with a name, a decoder and, records aside, a default;
* `Json.TextOr`, `Lifecycle.IsNamed` — descriptions and releases that comments can show;
* `Leaf.Emits`, `Message.Emits`, `ApiClass.Emits` — parts of a source that can be generated but for
  faults of some kind;
* `Source.ofClass_sound` — the source of a class fails with those faults only.
-/

namespace ClientBindings

open Emission

variable {P : Fault → Prop}

/-! ## Types -/

namespace Ty

/-- Whether a type can be resolved by itself, its parts left out: its scalar kind is known, and the
values of an enumeration can be looked up. -/
def IsResolvable : Ty → Prop
  | primitive kind => ∃ s : Scalar, kind = s.name
  | enum _ values => ∀ v ∈ values, v.isPlain = true
  | set _ | map _ _ | ref _ | record _ | option _ => True

def Resolves (ty : Ty) : Prop :=
  ∀ part ∈ ty.parts, part.IsResolvable

theorem resolves_of_part {s t : Ty} (ht : t.Resolves) (hs : s ∈ t.parts) : s.Resolves := by
  intro part hpart
  exact ht part (mem_parts_trans hpart hs)

theorem resolves_record (cls : String) : (record cls).Resolves := by
  intro part hpart
  rw [List.mem_singleton.mp hpart]
  trivial

theorem resolves_scalar (s : Scalar) : (scalar s).Resolves := by
  intro part hpart
  rw [List.mem_singleton.mp hpart]
  exact ⟨s, rfl⟩

/-- Types that resolve can be told apart. -/
theorem isPlain_of_resolves {ty : Ty} (h : ty.Resolves) : ty.isPlain = true := by
  -- The values of an enumeration decide, wherever in the type it stands.
  induction ty with
  | primitive kind => rfl
  | ref cls => rfl
  | record cls => rfl
  | enum name values =>
    have plain := h _ (self_mem_parts _)
    exact List.all_eq_true.mpr plain
  | set item ih => exact ih (resolves_of_part h item.item_mem_parts)
  | option inner ih => exact ih (resolves_of_part h inner.inner_mem_parts)
  | map key value ihKey ihValue =>
    have hkey := ihKey (resolves_of_part h (key_mem_parts key value))
    have hvalue := ihValue (resolves_of_part h (value_mem_parts key value))
    simp only [isPlain, hkey, hvalue, Bool.and_self]

/-- Types that resolve have no unknown scalar kinds. -/
theorem apt_of_resolves {ty : Ty} (h : ty.Resolves) : ty.Apt P := by
  refine ⟨isPlain_of_resolves h, ?_⟩
  intro kind hkind unknown
  obtain ⟨s, rfl⟩ := h _ hkind
  simp [Scalar.ofName?_name] at unknown

end Ty

theorem javaTypeOrVoid_sound {ty : Option Ty} (h : ∀ t ∈ ty, t.Resolves) :
    (javaTypeOrVoid ty).Sound P := by
  cases ty with
  | none => exact Sound.pure _
  | some t => exact Ty.javaType_sound (Ty.apt_of_resolves (h t rfl))

/-! ## Comments -/

namespace Json

/-- A text, unless `P` allows for one that is missing. -/
def TextOr (P : Fault → Prop) (j : Json) : Prop :=
  j.isText = true ∨ P .textExpected

theorem asText_failsOnly {j : Json} (h : j.TextOr P) : Except.FailsOnly P j.asText := by
  rcases h with text | allowed
  · obtain ⟨s, rfl⟩ := eq_text_of_isText text
    exact Except.FailsOnly.ok s
  · intro fault failed
    have same : fault = .textExpected := by
      cases j with
      | text s => simp [asText] at failed
      | _ => exact (Except.error.inj failed).symm
    exact same ▸ allowed

end Json

/-- A lifecycle whose releases can be looked up. -/
structure Lifecycle.IsNamed (life : Lifecycle) : Prop where
  published : life.published.isScalar = true
  deprecated : life.deprecated.isScalar = true

namespace Comment

variable {releases : List Release} {life : Lifecycle}

theorem branding_sound {codeName : Json} (named : codeName.isScalar = true) :
    (branding releases codeName).Sound P := by
  unfold branding
  simp only [named, Bool.not_true, Bool.false_eq_true, if_false]
  split
  · exact Sound.pure _
  · exact (Sound.note _).bind fun _ _ => Sound.pure _

theorem deprecatedRelease_sound (named : life.IsNamed) :
    (deprecatedRelease releases life).Sound P := by
  unfold deprecatedRelease
  split
  · exact branding_sound named.deprecated
  · exact Sound.pure _

theorem deprecationMark_sound (named : life.IsNamed) : (deprecationMark releases life).Sound P := by
  unfold deprecationMark
  refine (deprecatedRelease_sound named).bind fun release _ => ?_
  split <;> exact Sound.pure _

theorem sentence_sound {release : Json} (named : release.isScalar = true) (opening : String) :
    (sentence releases opening release).Sound P := by
  unfold sentence
  split
  · exact (branding_sound named).bind fun _ _ => Sound.pure _
  · exact Sound.pure _

theorem publishedInfo_sound (named : life.IsNamed) : (publishedInfo releases life).Sound P := by
  unfold publishedInfo
  refine (sentence_sound named.published _).bind fun _ _ => ?_
  exact (sentence_sound named.deprecated _).bind fun _ _ => Sound.pure _

theorem described_failsOnly {description : Json} (h : description.TextOr P) :
    Except.FailsOnly P (described description) := by
  unfold described
  exact (Json.asText_failsOnly h).bind fun _ _ => Except.FailsOnly.ok _

theorem describedOr_sound {description : Json} {otherwise : Emission String}
    (h : description.TextOr P) (hotherwise : otherwise.Sound P) :
    (describedOr description otherwise).Sound P := by
  unfold describedOr
  -- A missing description does not count as set, and something else stands in its place.
  split
  · exact Sound.liftM (described_failsOnly h)
  · exact hotherwise

end Comment

/-! ## Records -/

/-- A leaf whose member can be emitted but for faults of the kind `P`. -/
structure Leaf.Emits (P : Fault → Prop) (leaf : Leaf) : Prop where
  named : leaf.isNamed = true
  ty : leaf.field.ty.Resolves
  lifecycle : leaf.field.lifecycle.IsNamed
  description : leaf.field.description.TextOr P

namespace Source

variable {s : Settings}

theorem mapEntry_sound {leaf : Leaf} (h : leaf.Emits P)
    (bare : ∀ cls, P (.recordWithoutDefault cls)) : (mapEntry s leaf).Sound P := by
  unfold mapEntry
  have literal := Ty.defaultValue_sound (Ty.apt_of_resolves h.ty) fun cls _ => bare cls
  exact (literal s.overrides).bind fun _ _ => Sound.pure _

theorem declaration_sound {leaf : Leaf} (h : leaf.Emits P) : (declaration s leaf).Sound P := by
  unfold declaration
  refine (Ty.javaType_sound (Ty.apt_of_resolves h.ty)).bind fun _ _ => ?_
  refine (Comment.publishedInfo_sound h.lifecycle).bind fun _ _ => ?_
  refine (Sound.liftM (Comment.described_failsOnly h.description)).bind fun _ _ => ?_
  dsimp only
  -- The declaration of a deprecated member has a mark, for which its releases are read again.
  split
  · refine Sound.bind ?_ fun _ _ => Sound.pure _
    exact (Comment.deprecationMark_sound h.lifecycle).map _
  · exact (Sound.pure _).bind fun _ _ => Sound.pure _

end Source

/-! ## Messages -/

structure Param.Emits (P : Fault → Prop) (param : Param) : Prop where
  named : param.name.isText = true
  ty : param.ty.Resolves
  lifecycle : param.lifecycle.IsNamed
  description : param.description.TextOr P

structure ErrorDef.Emits (P : Fault → Prop) (e : ErrorDef) : Prop where
  named : e.name.isText = true
  params : ∀ param ∈ e.params, param.isText = true
  description : e.description.TextOr P

structure Message.Emits (P : Fault → Prop) (m : Message) : Prop where
  named : m.name.isText = true
  params : ∀ param ∈ m.params, param.Emits P
  answer : ∀ answer ∈ m.answer, answer.ty.Resolves ∧ answer.description.TextOr P
  errors : ∀ e ∈ m.errors, e.Emits P
  lifecycle : m.lifecycle.IsNamed
  description : m.description.TextOr P

/-- A class whose source can be emitted but for faults of the kind `P`. -/
structure ApiClass.Emits (P : Fault → Prop) (cls : ApiClass) : Prop where
  named : cls.name.isText = true
  leaves : ∀ leaf ∈ cls.leaves, leaf.Emits P
  messages : ∀ m ∈ cls.messages, m.Emits P
  lifecycle : cls.lifecycle.IsNamed
  description : cls.description.TextOr P

namespace Source

variable {s : Settings} {cls : ApiClass} {message : Message}

theorem asText_sound {j : Json} (h : j.isText = true) :
    (liftM j.asText : Emission String).Sound P :=
  Sound.liftM (Json.asText_failsOnly (Or.inl h))

theorem returnType_sound (hcls : cls.name.isText = true) (h : message.Emits P) :
    (returnType cls message).Sound P := by
  have answer : ∀ ty ∈ message.answer.map Answer.ty, ty.Resolves := by
    intro ty hty
    obtain ⟨given, hgiven, rfl⟩ := Option.map_eq_some_iff.mp hty
    exact (h.answer given hgiven).1
  have waits : Except.FailsOnly P (waitsForEvents cls message) := by
    -- The name of the message is read for the class of events only.
    unfold waitsForEvents
    refine (Json.asText_failsOnly (Or.inl hcls)).bind fun _ _ => ?_
    split
    · exact (Json.asText_failsOnly (Or.inl h.named)).bind fun _ _ => Except.FailsOnly.ok _
    · exact Except.FailsOnly.ok _
  unfold returnType
  refine (javaTypeOrVoid_sound answer).bind fun _ _ => ?_
  exact (Sound.liftM waits).bind fun _ _ => Sound.pure _

theorem parameter_sound {p : Param} (h : p.Emits P) : (parameter p).Sound P := by
  unfold parameter
  refine (Ty.javaType_sound (Ty.apt_of_resolves h.ty)).bind fun _ _ => ?_
  exact (asText_sound h.named).bind fun _ _ => Sound.pure _

theorem paramDoc_sound {p : Param} (h : p.Emits P) : (paramDoc s p).Sound P := by
  unfold paramDoc
  refine (Comment.describedOr_sound h.description (Sound.pure _)).bind fun _ _ => ?_
  exact (Comment.publishedInfo_sound h.lifecycle).bind fun _ _ => Sound.pure _

theorem returnDoc_sound (hcls : cls.name.isText = true) (h : message.Emits P) (async : Bool) :
    (returnDoc cls message async).Sound P := by
  have shown := returnType_sound hcls h
  unfold returnDoc
  -- Only the answer that a method waits for is described, if there is one.
  split
  · exact Sound.pure _
  · split
    · exact Sound.pure _
    · next answer hanswer =>
      have description := (h.answer answer hanswer).2
      exact (Comment.describedOr_sound description shown).bind fun _ _ => Sound.pure _

theorem exceptionName_sound {e : ErrorDef} (h : e.Emits P) : (exceptionName e).Sound P := by
  unfold exceptionName
  exact (asText_sound h.named).bind fun _ _ => Sound.pure _

theorem errorDoc_sound {e : ErrorDef} (h : e.Emits P) : (errorDoc e).Sound P := by
  unfold errorDoc
  refine (exceptionName_sound h).bind fun _ _ => ?_
  exact (Sound.liftM (Comment.described_failsOnly h.description)).bind fun _ _ => Sound.pure _

variable {params : List Param}

theorem methodDoc_sound (hcls : cls.name.isText = true) (h : message.Emits P)
    (hparams : ∀ p ∈ params, p.Emits P) (async : Bool) :
    (methodDoc s cls message params async).Sound P := by
  unfold methodDoc
  refine (Sound.liftM (Comment.described_failsOnly h.description)).bind fun _ _ => ?_
  refine (Comment.publishedInfo_sound h.lifecycle).bind fun _ _ => ?_
  refine (Comment.deprecatedRelease_sound h.lifecycle).bind fun _ _ => ?_
  refine (Sound.mapM fun p hp => paramDoc_sound (hparams p hp)).bind fun _ _ => ?_
  refine (returnDoc_sound hcls h async).bind fun _ _ => ?_
  exact (Sound.mapM fun e he => errorDoc_sound (h.errors e he)).bind fun _ _ => Sound.pure _

theorem ofMessage_sound (hcls : cls.name.isText = true) (h : message.Emits P)
    (hparams : ∀ p ∈ params, p.Emits P) (async : Bool) :
    (MethodSource.ofMessage s cls message params async).Sound P := by
  unfold MethodSource.ofMessage
  refine (returnType_sound hcls h).bind fun _ _ => ?_
  refine (asText_sound h.named).bind fun _ _ => ?_
  refine (Sound.mapM fun p hp => parameter_sound (hparams p hp)).bind fun _ _ => ?_
  refine (methodDoc_sound hcls h hparams async).bind fun _ _ => ?_
  refine (Comment.deprecationMark_sound h.lifecycle).bind fun _ _ => ?_
  refine (Sound.mapM fun e he => exceptionName_sound (h.errors e he)).bind fun _ _ => ?_
  exact (Sound.note _).bind fun _ _ => Sound.pure _

theorem overloadMethods_sound (hcls : cls.name.isText = true) (h : message.Emits P)
    (hparams : ∀ p ∈ params, p.Emits P) : (overloadMethods s cls message params).Sound P := by
  have sync := ofMessage_sound (s := s) hcls h hparams false
  have async := ofMessage_sound (s := s) hcls h hparams true
  unfold overloadMethods
  dsimp only
  split
  · exact (async.map _).bind fun _ _ => sync.bind fun _ _ => Sound.pure _
  · exact (Sound.pure _).bind fun _ _ => sync.bind fun _ _ => Sound.pure _

theorem messageMethods_sound (hcls : cls.name.isText = true) (h : message.Emits P) :
    (messageMethods s cls message).Sound P := by
  have each : ((overloads message.params).mapM (overloadMethods s cls message)).Sound P := by
    refine Sound.mapM fun params hparams => overloadMethods_sound hcls h ?_
    intro p hp
    -- An overload takes its parameters from those of the message.
    exact h.params p (mem_of_mem_overloads hparams hp)
  unfold messageMethods
  exact each.bind fun _ _ => Sound.pure _

/-! ## Classes -/

theorem namedLeaves_failsOnly (h : cls.Emits P) : Except.FailsOnly P cls.namedLeaves := by
  have named : cls.leaves.all Leaf.isNamed = true :=
    List.all_eq_true.mpr fun leaf hleaf => (h.leaves leaf hleaf).named
  unfold ApiClass.namedLeaves
  rw [named]
  exact Except.FailsOnly.ok _

theorem syntheticMembers_sound (h : cls.Emits P) : (syntheticMembers cls).Sound P := by
  unfold syntheticMembers
  refine (asText_sound h.named).bind fun _ _ => ?_
  split
  · refine (Sound.liftM (namedLeaves_failsOnly h)).bind fun _ _ => ?_
    dsimp only
    -- A kind that the schema does not declare is a string.
    split
    · exact (Sound.pure _).bind fun _ _ => Sound.pure _
    · have scalar : (Ty.scalar .string).Apt P := Ty.apt_of_resolves (Ty.resolves_scalar .string)
      refine (Ty.javaType_sound scalar).bind fun _ _ => ?_
      exact (Sound.pure _).bind fun _ _ => Sound.pure _
  · exact Sound.pure _

theorem RecordSource.ofClass_sound (h : cls.Emits P)
    (bare : ∀ cls, P (.recordWithoutDefault cls)) (synthetic : List SyntheticMember) :
    (RecordSource.ofClass s cls synthetic).Sound P := by
  unfold RecordSource.ofClass
  refine (Sound.liftM (namedLeaves_failsOnly h)).bind fun leaves hleaves => ?_
  obtain rfl := ApiClass.namedLeaves_eq_ok hleaves
  -- The layout is registered by the name of the class, which is a text.
  have plain : (Registration.record cls.name (layout cls.leaves synthetic)).isPlain = true :=
    Json.isScalar_of_isText h.named
  refine (Sound.meet plain).bind fun _ _ => ?_
  refine (asText_sound h.named).bind fun _ _ => ?_
  refine (Sound.mapM fun leaf hleaf => mapEntry_sound (h.leaves leaf hleaf) bare).bind fun _ _ => ?_
  refine (Sound.mapM fun leaf hleaf => declaration_sound (h.leaves leaf hleaf)).bind fun _ _ => ?_
  exact (Sound.note _).bind fun _ _ => Sound.pure _

theorem classDoc_sound (h : cls.Emits P) : (ClassSource.classDoc s cls).Sound P := by
  unfold ClassSource.classDoc
  refine (Sound.liftM (Comment.described_failsOnly h.description)).bind fun _ _ => ?_
  exact (Comment.publishedInfo_sound h.lifecycle).bind fun _ _ => Sound.pure _

theorem classRecord_sound (h : cls.Emits P) (bare : ∀ cls, P (.recordWithoutDefault cls)) :
    (ClassSource.classRecord s cls).Sound P := by
  unfold ClassSource.classRecord
  split
  · exact Sound.pure _
  · refine (syntheticMembers_sound h).bind fun synthetic _ => ?_
    exact (RecordSource.ofClass_sound h bare synthetic).bind fun _ _ => Sound.pure _

/-- The source of a class that can be emitted has no other faults than those allowed for, and those
of records in the place of values. -/
theorem ofClass_sound (h : cls.Emits P) (bare : ∀ cls, P (.recordWithoutDefault cls)) :
    (ClassSource.ofClass s cls).Sound P := by
  unfold ClassSource.ofClass
  refine (asText_sound h.named).bind fun _ _ => ?_
  refine (classDoc_sound h).bind fun _ _ => ?_
  refine (classRecord_sound h bare).bind fun _ _ => ?_
  refine Sound.bind ?_ fun _ _ => Sound.pure _
  exact Sound.mapM fun m hm => messageMethods_sound h.named (h.messages m hm)

end Source
end ClientBindings
