import ClientBindings.Proofs.Calls
import ClientBindings.Proofs.Fieldless

/-!
# References — methods and the reference of their object

A method that is not static sends the reference of its object.  Whether it does is read off its
message alone, and whether the class has a reference is read off its fields alone.  So a class
without fields has methods that send a reference which is not there, unless all its messages are
static.

* `MethodSource.SendsReference`, `ClassSource.DeclaresReference` — the two sides;
* `Message.asksForReference`, `ClassParts.sendsReference_iff` — the messages whose methods send one;
* `ClassSource.declaresReference_iff` — the classes whose sources declare one;
* `ClassSource.sendsOnlyDeclared_iff` — when no method sends a reference that is not declared.
-/

namespace ClientBindings
namespace Source

/-- How a method writes the reference of its object. -/
def ownReference : String :=
  "this.ref"

/-! ## Methods -/

/-- A method sends the reference of its object if that is among the arguments of its call. -/
def MethodSource.SendsReference (m : MethodSource) : Prop :=
  ownReference ∈ m.arguments.map Argument.text

instance (m : MethodSource) : Decidable m.SendsReference :=
  inferInstanceAs (Decidable (_ ∈ _))

/-- The map of a record is not called like a reference. -/
theorem mapVariable_ne_ownReference (name : String) : mapVariable name ≠ ownReference := by
  intro same
  have ends : name ++ "_map" = "" ++ ownReference := by
    simpa [mapVariable] using same
  exact absurd (Text.suffix_of_append_eq ends) (by decide)

theorem text_eq_ownReference_iff {a : Argument} :
    a.text = ownReference ↔ a = .self ∨ a = .plain ownReference := by
  cases a with
  | session => exact iff_of_false (by decide) (by simp)
  | self => exact iff_of_true rfl (Or.inl rfl)
  | plain name => simp [Argument.text]
  | mapped name => simp [Argument.text, mapVariable_ne_ownReference]

end Source

/-- Whether a message has methods that send the reference of their object: if it is not static, and
if it has a parameter of that name, which no identifier can be. -/
def Message.asksForReference (m : Message) : Bool :=
  !m.isStatic || m.params.any fun p => Source.argument p = .plain Source.ownReference

namespace Source

variable {s : Settings} {cls : ApiClass} {message : Message} {params : List Param} {async : Bool}
  {m : MethodSource} {source : ClassSource}

theorem ownReference_mem_wireArguments_iff :
    ownReference ∈ (wireArguments message params).map Argument.text ↔
      message.isStatic = false ∨ ∃ p ∈ params, argument p = .plain ownReference := by
  have leading : ownReference ∈ message.leadingArguments ↔ message.isStatic = false := by
    unfold Message.leadingArguments
    cases message.needsSession <;> cases message.isStatic <;> decide
  -- The argument for a parameter is never that for the object.
  have given (p : Param) : (argument p).text = ownReference ↔ argument p = .plain ownReference := by
    have other : argument p ≠ .self := by
      unfold argument
      split <;> simp
    simp [text_eq_ownReference_iff, other]
  simp only [text_wireArguments, List.mem_append, leading, List.map_map, List.mem_map,
    Function.comp_apply, given]

theorem sendsReference_of_ofMessage_iff
    (made : (MethodSource.ofMessage s cls message params async).result = .ok m) :
    m.SendsReference ↔
      message.isStatic = false ∨ ∃ p ∈ params, argument p = .plain ownReference := by
  unfold MethodSource.SendsReference
  rw [(callParts_of_ofMessage made).arguments]
  exact ownReference_mem_wireArguments_iff

/-- The methods of a class send references exactly if one of its messages asks for them. -/
theorem ClassParts.sendsReference_iff (parts : ClassParts s cls source) :
    (∃ m ∈ source.methods, m.SendsReference) ↔
      ∃ message ∈ cls.messages, message.asksForReference = true := by
  simp only [Message.asksForReference, Bool.or_eq_true, Bool.not_eq_true', List.any_eq_true,
    decide_eq_true_eq]
  constructor
  · rintro ⟨m, hm, sends⟩
    rcases parts.mem_methods_iff.mp hm with ⟨message, hmessage, params, hparams, async, _, made⟩
    refine ⟨message, hmessage, ?_⟩
    rcases (sendsReference_of_ofMessage_iff made).mp sends with object | ⟨p, hp, named⟩
    · exact Or.inl object
    · exact Or.inr ⟨p, mem_of_mem_overloads hparams hp, named⟩
  · -- Nothing is left out of the first list of parameters.
    rintro ⟨message, hmessage, asks⟩
    rcases parts.exists_method hmessage (self_mem_overloads message.params) message.false_mem_modes
      with ⟨m, hm, made⟩
    exact ⟨m, hm, (sendsReference_of_ofMessage_iff made).mpr asks⟩

/-! ## Classes -/

namespace ClassSource

/-- The line that declares a reference. -/
def referenceLine : String :=
  "    protected final String ref;"

theorem referenceLine_mem_referenceLines (name : String) : referenceLine ∈ referenceLines name := by
  simp [referenceLine, referenceLines]

theorem referenceLine_not_mem_unreferencedLines : referenceLine ∉ unreferencedLines := by
  decide

def DeclaresReference (source : ClassSource) : Prop :=
  referenceLine ∈ source.body

theorem declaresReference_of_wraps {members : List (String × String)}
    (wraps : source.Wraps members) : source.DeclaresReference := by
  rcases wraps with ⟨record, _, body⟩
  have first := referenceLine_mem_referenceLines source.name
  rw [DeclaresReference, body]
  exact List.mem_append_left _ (List.mem_append_left _ first)

theorem declaresReference_iff (made : (ofClass s cls).result = .ok source) :
    source.DeclaresReference ↔ cls.isEmpty = false := by
  constructor
  · -- Without contents there is no record, and nothing in front of the methods but the answer that
    -- there is no reference.
    intro declares
    by_contra empty
    have none := record_of_isEmpty (by simpa using empty) made
    rw [DeclaresReference, body, none] at declares
    exact referenceLine_not_mem_unreferencedLines declares
  · intro filled
    exact declaresReference_of_wraps (wraps_of_filled filled made)

/-- No method sends a reference that the source does not declare. -/
def SendsOnlyDeclared (source : ClassSource) : Prop :=
  (∃ m ∈ source.methods, m.SendsReference) → source.DeclaresReference

/-- The methods and the declaration of a class agree on its reference exactly if there is something
in the class, or no message asks for a reference. -/
theorem sendsOnlyDeclared_iff (made : (ofClass s cls).result = .ok source) :
    source.SendsOnlyDeclared ↔
      cls.isEmpty = false ∨ ∀ message ∈ cls.messages, message.asksForReference = false := by
  rcases exists_classParts made with ⟨parts⟩
  unfold SendsOnlyDeclared
  rw [parts.sendsReference_iff, declaresReference_iff made]
  cases cls.isEmpty with
  | true => simp
  | false => simp

end ClassSource
end Source

/-! ## A class with and without a field -/

namespace Sample

/-- A class with some fields, and a message that may run in the background. -/
def starting (fields : List Json) : Json :=
  .object [
    ("classes", .list [
      .object [
        ("name", .text "vm"),
        ("fields", .list fields),
        ("messages", .list [.object [("name", .text "start"), ("async", .bool true)]])]])]

set_option maxRecDepth 20000 in
theorem sends_starting :
    ((firstSource? (starting [typed "uuid" "string"])).any fun (_, cls, source) =>
      !cls.isEmpty ∧ source.methods.length = 2 ∧ ∃ m ∈ source.methods, m.SendsReference) =
        true := by
  decide +kernel

set_option maxRecDepth 20000 in
theorem sends_starting_nil :
    ((firstSource? (starting [])).any fun (_, cls, source) =>
      cls.isEmpty ∧ ∃ m ∈ source.methods, m.SendsReference) = true := by
  decide +kernel

end Sample

namespace Source
namespace ClassSource

theorem sendsOnlyDeclared_iff_starting :
    ∃ schema cls source,
      Schema.ofDocument (Sample.starting [Sample.typed "uuid" "string"]) = .ok schema ∧
      cls ∈ schema.classes ∧ (ofClass (Sample.config.settings schema) cls).result = .ok source ∧
      (∃ m ∈ source.methods, m.SendsReference) ∧ source.DeclaresReference := by
  rcases (Option.any_eq_true _ _).mp Sample.sends_starting with ⟨⟨schema, cls, source⟩, first, facts⟩
  rcases of_decide_eq_true facts with ⟨filled, _, sends⟩
  rcases Sample.of_firstSource?_eq_some first with ⟨parsed, hcls, made⟩
  have agrees := (sendsOnlyDeclared_iff made).mpr (Or.inl (by simpa using filled))
  exact ⟨schema, cls, source, parsed, hcls, made, sends, agrees sends⟩

/-- Without the field, the methods send a reference that is not there. -/
theorem not_sendsOnlyDeclared_of_fieldless :
    ∃ schema cls source, Schema.ofDocument (Sample.starting []) = .ok schema ∧
      cls ∈ schema.classes ∧ (ofClass (Sample.config.settings schema) cls).result = .ok source ∧
      ¬source.SendsOnlyDeclared := by
  rcases (Option.any_eq_true _ _).mp Sample.sends_starting_nil
    with ⟨⟨schema, cls, source⟩, first, facts⟩
  rcases of_decide_eq_true facts with ⟨empty, sends⟩
  rcases Sample.of_firstSource?_eq_some first with ⟨parsed, hcls, made⟩
  refine ⟨schema, cls, source, parsed, hcls, made, ?_⟩
  intro agrees
  have filled := (declaresReference_iff made).mp (agrees sends)
  simp [filled] at empty

end ClassSource
end Source
end ClientBindings
