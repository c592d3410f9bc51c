import Mathlib.Algebra.Order.BigOperators.Group.List
import Mathlib.Algebra.Order.Group.Nat
import ClientBindings.Proofs.Calls
import ClientBindings.Proofs.Erasure

/-!
# Wrapping — options around the types of a message

An option is resolved to the type inside it, so a message whose types are made options has methods
with the same comments, the same signatures and the same answers.  Only the argument for a parameter
is chosen by its type as it is: a record travels as its map, and an option of a record as itself.

* `Message.Wraps` — a message, and the same message with some of its types made options;
* `Source.result_messageMethods_wrapped` — their methods are the same but for the arguments;
* `Source.KeepsRecord`, `length_declared_lt` — a record that is made an option loses its map;
* `Source.Retains`, `retains_of_wraps` — the lines are the same exactly if no record is made an option.

A registry has no part in this: it takes an option exactly if it takes the type inside it.
-/

namespace ClientBindings

/-! ## Wrapped types -/

/-- The same type, or an option of it. -/
def Ty.Wraps (t u : Ty) : Prop :=
  u = t ∨ u = .option t

/-- The same parameter, or the parameter with its type made an option. -/
def Param.Wraps (p q : Param) : Prop :=
  q = p ∨ q = { p with ty := .option p.ty }

/-- The same answer, or the answer with its type made an option. -/
def Answer.Wraps (a b : Answer) : Prop :=
  b = a ∨ b = { a with ty := .option a.ty }

/-- The same message, with some of the types of its parameters and its answer made options. -/
inductive Message.Wraps (message : Message) : Message → Prop where
  | intro {params : List Param} {answer : Option Answer} :
    List.Forall₂ Param.Wraps message.params params → Option.Rel Answer.Wraps message.answer answer →
      message.Wraps { message with params := params, answer := answer }

namespace Message.Wraps

variable {message other : Message}

theorem params (h : message.Wraps other) : List.Forall₂ Param.Wraps message.params other.params := by
  cases h with
  | intro params _ => exact params

theorem answer (h : message.Wraps other) :
    Option.Rel Answer.Wraps message.answer other.answer := by
  cases h with
  | intro _ answer => exact answer

theorem modes (h : message.Wraps other) : other.modes = message.modes := by
  cases h
  rfl

end Message.Wraps

theorem Ty.result_javaType_option (inner : Ty) :
    (option inner).javaType.result = inner.javaType.result := by
  rw [javaType, result_meet_bind]

namespace Source

open Emission

variable {s : Settings} {cls : ApiClass} {message other : Message} {params given wrapped : List Param}
  {async : Bool} {m : MethodSource} {p q : Param}

/-! ## Parts of a method -/

theorem result_parameter_wrapped (h : p.Wraps q) :
    (parameter q).result = (parameter p).result := by
  rcases h with rfl | rfl
  · rfl
  · unfold parameter
    rw [result_bind, result_bind, Ty.result_javaType_option]

/-- The comment for a parameter does not ask for its type. -/
theorem paramDoc_wrapped (s : Settings) (h : p.Wraps q) : paramDoc s q = paramDoc s p := by
  rcases h with rfl | rfl <;> rfl

theorem optional_wrapped (h : p.Wraps q) : q.optional = p.optional := by
  rcases h with rfl | rfl <;> rfl

section Answers

variable {first second : Option Answer} (h : Option.Rel Answer.Wraps first second)

include h

theorem result_javaTypeOrVoid_wrapped :
    (javaTypeOrVoid (second.map Answer.ty)).result = (javaTypeOrVoid (first.map Answer.ty)).result := by
  cases h with
  | none => rfl
  | some wraps =>
    rcases wraps with rfl | rfl
    · rfl
    · exact Ty.result_javaType_option _

theorem isNone_wrapped : second.isNone = first.isNone := by
  cases h <;> rfl

end Answers

theorem result_returnType_wrapped (cls : ApiClass) (h : message.Wraps other) :
    (returnType cls other).result = (returnType cls message).result := by
  have same := result_javaTypeOrVoid_wrapped h.answer
  cases h
  unfold returnType
  rw [result_bind, result_bind, same]
  rfl

theorem result_describedOr_congr {m n : Emission String} (same : m.result = n.result)
    (description : Json) :
    (Comment.describedOr description m).result = (Comment.describedOr description n).result := by
  unfold Comment.describedOr
  split
  · rfl
  · exact same

theorem result_returnDoc_wrapped (cls : ApiClass) (async : Bool) (h : message.Wraps other) :
    (returnDoc cls other async).result = (returnDoc cls message async).result := by
  have returned := result_returnType_wrapped cls h
  have answers := h.answer
  unfold returnDoc
  cases async with
  | true => rfl
  | false =>
    generalize returnType cls other = shown, returnType cls message = shown' at returned
    generalize message.answer = first, other.answer = second at answers
    cases answers with
    | none => rfl
    | some wraps =>
      -- The two answers have one description, and the type is shown where there is none.
      simp only [Bool.false_eq_true, if_false]
      rw [result_bind, result_bind, result_describedOr_congr returned]
      rcases wraps with rfl | rfl <;> rfl

theorem result_methodDoc_wrapped (s : Settings) (cls : ApiClass) (async : Bool)
    (h : message.Wraps other) (hgiven : List.Forall₂ Param.Wraps given wrapped) :
    (methodDoc s cls other wrapped async).result =
      (methodDoc s cls message given async).result := by
  have params : wrapped.mapM (fun p => (paramDoc s p).result) =
      given.mapM fun p => (paramDoc s p).result := by
    refine Except.mapM_eq_of_forall₂ hgiven fun p q wraps => ?_
    rw [paramDoc_wrapped s wraps]
  have returned := result_returnDoc_wrapped cls async h
  cases h
  unfold methodDoc
  simp only [result_bind, result_mapM, params, returned]

/-! ## Methods -/

/-- The method with other arguments, as many as it has. -/
def MethodSource.resend (arguments : List Argument) (m : MethodSource) : MethodSource :=
  { m with arguments := arguments.take m.arguments.length }

theorem length_wireArguments (message : Message) (params : List Param) :
    (wireArguments message params).length = message.leadingArguments.length + params.length := by
  unfold wireArguments Message.leadingArguments
  cases message.needsSession <;> cases message.isStatic <;> simp <;> omega

theorem take_wireArguments (message : Message) (same : given.length = wrapped.length)
    (front : wrapped <+: params) :
    (wireArguments message params).take (wireArguments message given).length =
      wireArguments message wrapped := by
  have sent := List.prefix_iff_eq_take.mp (prefix_wireArguments message front)
  rw [length_wireArguments, same, ← length_wireArguments, ← sent]

theorem result_ofMessage_wrapped (s : Settings) (cls : ApiClass) (async : Bool)
    (h : message.Wraps other) (hgiven : List.Forall₂ Param.Wraps given wrapped)
    (front : wrapped <+: other.params) :
    (MethodSource.ofMessage s cls other wrapped async).result =
      (MethodSource.ofMessage s cls message given async).result.map
        (MethodSource.resend (wireArguments message other.params)) := by
  have typed : wrapped.mapM (fun p => (parameter p).result) =
      given.mapM fun p => (parameter p).result :=
    Except.mapM_eq_of_forall₂ hgiven fun _ _ => result_parameter_wrapped
  have returned := result_returnType_wrapped cls h
  have doc := result_methodDoc_wrapped s cls async h hgiven
  have sent := take_wireArguments message hgiven.length_eq front
  have answers := isNone_wrapped h.answer
  cases h
  unfold MethodSource.ofMessage
  simp only [result_bind, result_mapM, result_pure, typed, returned, doc, answers]
  -- The steps in front of the last one are the same.
  refine Except.bind_eq_map_bind fun javaType => ?_
  refine Except.bind_eq_map_bind fun name => ?_
  refine Except.bind_eq_map_bind fun names => ?_
  refine Except.bind_eq_map_bind fun doc => ?_
  refine Except.bind_eq_map_bind fun mark => ?_
  refine Except.bind_eq_map_bind fun exceptions => ?_
  refine congrArg Except.ok ?_
  rw [MethodSource.resend, sent]
  rfl

/-- How many parameters have to be given does not depend on their types. -/
theorem mandatoryCount_wrapped {before after : List Param}
    (h : List.Forall₂ Param.Wraps before after) : mandatoryCount after = mandatoryCount before := by
  have flags : after.map Param.optional = before.map Param.optional := by
    induction h with
    | nil => rfl
    | cons wraps _ ih => simp only [List.map_cons, ih, optional_wrapped wraps]
  -- The scan reads the flags and nothing else of the parameters.
  have scan : ∀ params : List Param,
      mandatoryCount params = ((params.map Param.optional).reverse.dropWhile id).length := by
    intro params
    rw [← List.map_reverse, List.dropWhile_map, List.length_map]
    rfl
  rw [scan, scan, flags]

theorem overloads_wrapped {before after : List Param} (h : List.Forall₂ Param.Wraps before after) :
    List.Forall₂ (fun given wrapped => List.Forall₂ Param.Wraps given wrapped ∧ wrapped <+: after)
      (overloads before) (overloads after) := by
  unfold overloads
  rw [mandatoryCount_wrapped h, ← h.length_eq, List.forall₂_map_left_iff,
    List.forall₂_map_right_iff]
  refine List.forall₂_same.mpr fun left _ => ?_
  exact ⟨List.forall₂_take _ h, List.take_prefix _ _⟩

theorem result_messageMethods_wrapped (s : Settings) (cls : ApiClass) (h : message.Wraps other) :
    (messageMethods s cls other).result = (messageMethods s cls message).result.map
      (List.map (MethodSource.resend (wireArguments message other.params))) := by
  have each := Except.mapM_eq_of_forall₂ (overloads_wrapped h.params)
    (f := fun given => (overloadMethods s cls message given).result.map
      (List.map (MethodSource.resend (wireArguments message other.params))))
    (g := fun wrapped => (overloadMethods s cls other wrapped).result) ?_
  · unfold messageMethods
    rw [result_bind, result_bind, result_mapM, result_mapM, each, Except.mapM_map]
    cases (overloads message.params).mapM fun given => (overloadMethods s cls message given).result with
    | error fault => rfl
    | ok groups => exact congrArg Except.ok List.map_flatten.symm
  · rintro given wrapped ⟨wraps, front⟩
    rw [result_overloadMethods, result_overloadMethods, h.modes, ← Except.mapM_map]
    congr 1
    funext async
    exact result_ofMessage_wrapped s cls async h wraps front

/-- The lines of some methods, with other arguments in them. -/
def resentLines (arguments : List Argument) (methods : List MethodSource) : List String :=
  (methods.map (MethodSource.resend arguments)).flatMap MethodSource.lines

theorem result_methodLines_wrapped (s : Settings) (cls : ApiClass) (h : message.Wraps other) :
    (methodLines s cls other).result = (messageMethods s cls message).result.map
      (resentLines (wireArguments message other.params)) := by
  unfold methodLines
  rw [result_bind, result_messageMethods_wrapped s cls h]
  cases (messageMethods s cls message).result <;> rfl

/-! ## Maps -/

/-- A record stays a record. -/
def KeepsRecord (p q : Param) : Prop :=
  ∀ cls, p.ty = .record cls → q.ty = .record cls

theorem argument_wrapped (h : p.Wraps q) (keeps : KeepsRecord p q) : argument q = argument p := by
  rcases h with rfl | rfl
  · rfl
  · have other : ∀ cls, p.ty ≠ .record cls := by
      intro cls record
      cases keeps cls record
    rw [argument_of_ne_record other, argument_of_ne_record (by simp)]
    rfl

/-- A record that is made an option is sent as itself, and no map is declared for it. -/
theorem length_localLine_lt (h : p.Wraps q) (loses : ¬KeepsRecord p q) :
    (MethodSource.localLine (argument q)).length < (MethodSource.localLine (argument p)).length := by
  rcases h with rfl | rfl
  · exact absurd (fun _ record => record) loses
  · by_cases isRecord : ∃ cls, p.ty = .record cls
    · rcases isRecord with ⟨cls, record⟩
      rw [argument_of_record record, argument_of_ne_record (by simp)]
      simp [MethodSource.localLine]
    · refine absurd ?_ loses
      intro cls record
      exact absurd ⟨cls, record⟩ isRecord

theorem length_localLine_le (h : p.Wraps q) :
    (MethodSource.localLine (argument q)).length ≤ (MethodSource.localLine (argument p)).length := by
  by_cases keeps : KeepsRecord p q
  · rw [argument_wrapped h keeps]
  · exact (length_localLine_lt h keeps).le

theorem map_argument_wrapped (h : List.Forall₂ Param.Wraps given wrapped)
    (keeps : List.Forall₂ KeepsRecord given wrapped) :
    wrapped.map argument = given.map argument := by
  induction h with
  | nil => rfl
  | cons wraps _ ih =>
    cases keeps with
    | cons keep rest => rw [List.map_cons, List.map_cons, argument_wrapped wraps keep, ih rest]

theorem length_declared_le (h : List.Forall₂ Param.Wraps given wrapped) :
    (declared wrapped).length ≤ (declared given).length := by
  induction h with
  | nil => exact le_rfl
  | cons wraps _ ih =>
    simp only [declared, List.flatMap_cons, List.length_append]
    exact Nat.add_le_add (length_localLine_le wraps) ih

theorem length_declared_lt (h : List.Forall₂ Param.Wraps given wrapped)
    (loses : ¬List.Forall₂ KeepsRecord given wrapped) :
    (declared wrapped).length < (declared given).length := by
  induction h with
  | nil => exact absurd .nil loses
  | @cons p q _ _ wraps rest ih =>
    simp only [declared, List.flatMap_cons, List.length_append]
    by_cases keeps : KeepsRecord p q
    · have later := ih fun others => loses (.cons keeps others)
      exact Nat.add_lt_add_of_le_of_lt (length_localLine_le wraps) later
    · exact Nat.add_lt_add_of_lt_of_le (length_localLine_lt wraps keeps) (length_declared_le rest)

/-! ## Lines -/

/-- How many lines a method has besides those that declare maps. -/
def MethodSource.fixedLines (m : MethodSource) : Nat :=
  m.header.length + (if m.needsSession then [sessionLine] else []).length + 1 + m.answer.length

theorem length_lines (sent : m.arguments = wireArguments message given) :
    m.lines.length = m.fixedLines + (declared given).length := by
  rw [m.lines_eq, sent, localLine_wireArguments]
  simp only [List.length_append, List.length_cons, MethodSource.fixedLines]
  omega

/-- A method sends the arguments for the first parameters of its message. -/
theorem exists_arguments_of_mem {methods : List MethodSource}
    (hmethods : (messageMethods s cls message).result = .ok methods) (hm : m ∈ methods) :
    ∃ n, m.arguments = wireArguments message (message.params.take n) := by
  rcases (mem_messageMethods_iff hmethods).mp hm with ⟨given, hgiven, async, _, made⟩
  rcases mem_overloads_iff.mp hgiven with ⟨left, parted, _⟩
  refine ⟨given.length, ?_⟩
  rw [(callParts_of_ofMessage made).arguments, parted, List.take_left]

section Resent

variable {n : Nat} (wraps : List.Forall₂ Param.Wraps message.params params)

include wraps

theorem arguments_resend (sent : m.arguments = wireArguments message (message.params.take n)) :
    (m.resend (wireArguments message params)).arguments = wireArguments message (params.take n) := by
  have same : (message.params.take n).length = (params.take n).length := by
    rw [List.length_take, List.length_take, wraps.length_eq]
  rw [MethodSource.resend, sent]
  exact take_wireArguments message same (List.take_prefix _ _)

theorem resend_of_keeps (keeps : List.Forall₂ KeepsRecord message.params params)
    (sent : m.arguments = wireArguments message (message.params.take n)) :
    m.resend (wireArguments message params) = m := by
  have same : (m.resend (wireArguments message params)).arguments = m.arguments := by
    rw [arguments_resend wraps sent, sent, wireArguments, wireArguments,
      map_argument_wrapped (List.forall₂_take n wraps) (List.forall₂_take n keeps)]
  calc m.resend (wireArguments message params)
      = { m with arguments := (m.resend (wireArguments message params)).arguments } := rfl
    _ = m := by rw [same]

/-- Only the maps of a method can become fewer: its other lines are those it had. -/
theorem length_lines_resend_le (sent : m.arguments = wireArguments message (message.params.take n)) :
    (m.resend (wireArguments message params)).lines.length ≤ m.lines.length := by
  have fewer := length_declared_le (List.forall₂_take n wraps)
  calc (m.resend (wireArguments message params)).lines.length
      = m.fixedLines + (declared (params.take n)).length :=
        length_lines (arguments_resend wraps sent)
    _ ≤ m.fixedLines + (declared (message.params.take n)).length := Nat.add_le_add_left fewer _
    _ = m.lines.length := (length_lines sent).symm

/-- Where nothing is left out, the parameter that is no record any more is among those given. -/
theorem length_lines_resend_lt (loses : ¬List.Forall₂ KeepsRecord message.params params)
    (sent : m.arguments = wireArguments message message.params) :
    (m.resend (wireArguments message params)).lines.length < m.lines.length := by
  have resent : (m.resend (wireArguments message params)).arguments =
      wireArguments message params := by
    rw [MethodSource.resend, sent]
    exact take_wireArguments message wraps.length_eq (List.prefix_refl params)
  have fewer := length_declared_lt wraps loses
  calc (m.resend (wireArguments message params)).lines.length
      = m.fixedLines + (declared params).length := length_lines resent
    _ < m.fixedLines + (declared message.params).length := Nat.add_lt_add_left fewer _
    _ = m.lines.length := (length_lines sent).symm

/-- The lines of all methods are fewer if a record is made an option: the method for all parameters
declares no map for it. -/
theorem length_resentLines_lt {methods : List MethodSource}
    (hmethods : (messageMethods s cls message).result = .ok methods)
    (loses : ¬List.Forall₂ KeepsRecord message.params params) :
    (resentLines (wireArguments message params) methods).length <
      (methods.flatMap MethodSource.lines).length := by
  rw [resentLines, List.flatMap_map, List.length_flatMap, List.length_flatMap]
  refine List.sum_lt_sum _ _ ?_ ?_
  · intro m hm
    rcases exists_arguments_of_mem hmethods hm with ⟨n, sent⟩
    exact length_lines_resend_le wraps sent
  · rcases exists_messageMethod hmethods (self_mem_overloads _) message.false_mem_modes with
      ⟨m, hm, made⟩
    exact ⟨m, hm, length_lines_resend_lt wraps loses (callParts_of_ofMessage made).arguments⟩

theorem resentLines_of_keeps {methods : List MethodSource}
    (hmethods : (messageMethods s cls message).result = .ok methods)
    (keeps : List.Forall₂ KeepsRecord message.params params) :
    resentLines (wireArguments message params) methods = methods.flatMap MethodSource.lines := by
  have same : methods.map (MethodSource.resend (wireArguments message params)) = methods := by
    refine (List.map_congr_left fun m hm => ?_).trans (List.map_id methods)
    rcases exists_arguments_of_mem hmethods hm with ⟨n, sent⟩
    exact resend_of_keeps wraps keeps sent
  rw [resentLines, same]

end Resent

/-! ## Registrations -/

theorem methodLines_registers (s : Settings) (cls : ApiClass) (message : Message) :
    (methodLines s cls message).Registers (registrationsOfTypes message.types) :=
  (messageMethods_registers s cls message).quiet_after fun _ _ => Registers.pure _

end Source

/-- A registry that takes a type takes an option of it. -/
theorem Registry.takes_option (r : Registry) (inner : Ty) :
    (∀ what ∈ (Ty.option inner).registrations, r.Takes what) ↔
      ∀ what ∈ inner.registrations, r.Takes what := by
  have first : (Ty.option inner).registrations = .type (.option inner) :: inner.registrations := by
    simp [Ty.registrations, Ty.parts, Ty.entries]
  rw [first, List.forall_mem_cons]
  constructor
  · intro all
    exact all.2
  · intro all
    -- An option can be looked up if the type inside it can.
    have inside := all (.type inner) (Ty.type_mem_registrations.mpr inner.self_mem_parts)
    exact ⟨inside, all⟩

theorem Message.Wraps.types {message other : Message} (h : message.Wraps other) :
    List.Forall₂ Ty.Wraps message.types other.types := by
  have answers := h.answer
  unfold Message.types
  refine List.rel_append ?_ ?_
  · generalize message.answer = first, other.answer = second at answers
    cases answers with
    | none => exact .nil
    | some wrapped =>
      refine .cons ?_ .nil
      exact wrapped.imp (congrArg Answer.ty) (congrArg Answer.ty)
  · rw [List.forall₂_map_left_iff, List.forall₂_map_right_iff]
    refine h.params.imp fun p q wrapped => ?_
    exact wrapped.imp (congrArg Param.ty) (congrArg Param.ty)

theorem Registry.takes_wrapped (r : Registry) {types others : List Ty}
    (h : List.Forall₂ Ty.Wraps types others) :
    (∀ what ∈ registrationsOfTypes others, r.Takes what) ↔
      ∀ what ∈ registrationsOfTypes types, r.Takes what := by
  induction h with
  | nil => rfl
  | cons wrapped _ ih =>
    unfold registrationsOfTypes at ih ⊢
    rw [List.flatMap_cons, List.flatMap_cons, List.forall_mem_append, List.forall_mem_append, ih]
    rcases wrapped with rfl | rfl
    · rfl
    · rw [r.takes_option]

/-! ## Messages -/

namespace Source

open Emission

variable {s : Settings} {cls : ApiClass} {context : Option Registry} {message other : Message}

/-- Where a message has lines, the other one has those of the same methods with its own arguments. -/
theorem exists_resent (h : message.Wraps other) {lines : List String}
    (produced : (methodLines s cls message).outcome context = .ok lines) :
    ∃ methods, (messageMethods s cls message).result = .ok methods ∧
      lines = methods.flatMap MethodSource.lines ∧
      (methodLines s cls other).outcome context =
        .ok (resentLines (wireArguments message other.params) methods) := by
  rcases (methodLines_registers s cls message).outcome_eq_ok_iff.mp produced with ⟨completed, takes⟩
  rcases result_bind_eq_ok.mp completed with ⟨methods, hmethods, hreturn⟩
  refine ⟨methods, hmethods, (Except.ok.inj hreturn).symm, ?_⟩
  refine (methodLines_registers s cls other).outcome_eq_ok_iff.mpr ⟨?_, ?_⟩
  · rw [result_methodLines_wrapped s cls h, hmethods]
    rfl
  · intro r hr
    exact (r.takes_wrapped h.types).mpr (takes r hr)

theorem exists_lines_of_wraps (h : message.Wraps other) {lines : List String}
    (produced : (methodLines s cls other).outcome context = .ok lines) :
    ∃ lines, (methodLines s cls message).outcome context = .ok lines := by
  rcases (methodLines_registers s cls other).outcome_eq_ok_iff.mp produced with ⟨completed, takes⟩
  rw [result_methodLines_wrapped s cls h] at completed
  rcases Except.map_eq_ok.mp completed with ⟨methods, hmethods, _⟩
  refine ⟨methods.flatMap MethodSource.lines, ?_⟩
  refine (methodLines_registers s cls message).outcome_eq_ok_iff.mpr ⟨?_, ?_⟩
  · exact result_bind_eq_ok.mpr ⟨methods, hmethods, rfl⟩
  · intro r hr
    exact (r.takes_wrapped h.types).mp (takes r hr)

/-- What is left of the lines of a message where some of its types are made options. -/
structure Retains (s : Settings) (cls : ApiClass) (context : Option Registry)
    (message other : Message) : Prop where
  /-- There are lines for both messages or for neither. -/
  produced : (∃ lines, (methodLines s cls other).outcome context = .ok lines) ↔
    ∃ lines, (methodLines s cls message).outcome context = .ok lines
  /-- The methods are the same but for their arguments, and the variables declared for them. -/
  resent : ∀ lines, (methodLines s cls message).outcome context = .ok lines →
    ∃ methods, (messageMethods s cls message).result = .ok methods ∧
      lines = methods.flatMap MethodSource.lines ∧
      (methodLines s cls other).outcome context =
        .ok (resentLines (wireArguments message other.params) methods)
  /-- The lines are the same exactly if every record stays a record. -/
  same_iff : ∀ lines, (methodLines s cls message).outcome context = .ok lines →
    ((methodLines s cls other).outcome context = .ok lines ↔
      List.Forall₂ KeepsRecord message.params other.params)

theorem retains_of_wraps (s : Settings) (cls : ApiClass) (context : Option Registry)
    {message other : Message} (h : message.Wraps other) : Retains s cls context message other := by
  refine ⟨⟨?_, ?_⟩, ?_, ?_⟩
  · rintro ⟨lines, produced⟩
    exact exists_lines_of_wraps h produced
  · rintro ⟨lines, produced⟩
    rcases exists_resent h produced with ⟨methods, _, _, resent⟩
    exact ⟨_, resent⟩
  · intro lines produced
    exact exists_resent h produced
  · intro lines produced
    rcases exists_resent h produced with ⟨methods, hmethods, rfl, resent⟩
    rw [resent]
    constructor
    · intro same
      -- The two would have to be of one length.
      by_contra loses
      have fewer := length_resentLines_lt h.params hmethods loses
      rw [Except.ok.inj same] at fewer
      exact lt_irrefl _ fewer
    · intro keeps
      rw [resentLines_of_keeps h.params hmethods keeps]

end Source

/-! ## A record that is made an option -/

namespace Sample

/-- The message with a record and a flag, its flag and its answer made options. -/
def loosened : Message :=
  { configuring with
    params := [parameter "config" (.record "VM") false, parameter "force" (.option (.scalar .bool)) true]
    answer := some ⟨.option (.ref "VM"), .text ""⟩ }

/-- The same message with its record made an option. -/
def blurred : Message :=
  { configuring with
    params := [parameter "config" (.option (.record "VM")) false, parameter "force" (.scalar .bool) true]
    answer := configuring.answer }

theorem wraps_loosened : configuring.Wraps loosened := by
  refine .intro (.cons ?_ (.cons ?_ .nil)) (.some ?_)
  · exact Or.inl rfl
  · exact Or.inr rfl
  · exact Or.inr rfl

theorem wraps_blurred : configuring.Wraps blurred := by
  refine .intro (.cons ?_ (.cons ?_ .nil)) (.some ?_)
  · exact Or.inr rfl
  · exact Or.inl rfl
  · exact Or.inl rfl

end Sample

namespace Source

theorem retains_loosened :
    Sample.configuring.Wraps Sample.loosened ∧ ∃ lines,
      (methodLines Sample.settings Sample.machines Sample.configuring).outcome (some .empty) =
        .ok lines ∧
      (methodLines Sample.settings Sample.machines Sample.loosened).outcome (some .empty) =
        .ok lines := by
  have generated : ∃ lines, (methodLines Sample.settings Sample.machines
      Sample.configuring).outcome (some .empty) = .ok lines := by
    decide +kernel
  rcases generated with ⟨lines, produced⟩
  have keeps : List.Forall₂ KeepsRecord Sample.configuring.params Sample.loosened.params := by
    refine .cons ?_ (.cons ?_ .nil)
    · intro cls record
      exact record
    · intro cls record
      cases record
  have retained := retains_of_wraps Sample.settings Sample.machines (some .empty)
    Sample.wraps_loosened
  exact ⟨Sample.wraps_loosened, lines, produced, (retained.same_iff lines produced).mpr keeps⟩

/-- The signature still asks for the record, but it is sent without having been made a map. -/
theorem lines_ne_of_blurred :
    (∃ lines,
      (methodLines Sample.settings Sample.machines Sample.configuring).result = .ok lines ∧
      "    public Task setConfigAsync(Connection c, VM.Record config, Boolean force) throws" ∈ lines ∧
      ["        var config_map = config.toMap();",
        "        Object[] methodParameters = \x7bsessionReference, this.ref, config_map, force\x7d;"]
        <:+: lines) ∧
    (∃ lines,
      (methodLines Sample.settings Sample.machines Sample.blurred).result = .ok lines ∧
      "    public Task setConfigAsync(Connection c, VM.Record config, Boolean force) throws" ∈ lines ∧
      ["        String sessionReference = c.getSessionReference();",
        "        Object[] methodParameters = \x7bsessionReference, this.ref, config, force\x7d;"]
        <:+: lines) ∧
    ¬∀ (s : Settings) (cls : ApiClass) (message other : Message), message.Wraps other →
      ∀ lines, (methodLines s cls message).result = .ok lines →
        (methodLines s cls other).result = .ok lines := by
  have differ : ∃ lines,
      (methodLines Sample.settings Sample.machines Sample.configuring).result = .ok lines ∧
      ¬(methodLines Sample.settings Sample.machines Sample.blurred).result = .ok lines := by
    decide +kernel
  refine ⟨by decide +kernel, by decide +kernel, ?_⟩
  intro same
  rcases differ with ⟨lines, generated, other⟩
  exact other (same _ _ _ _ Sample.wraps_blurred lines generated)

end Source
end ClientBindings
