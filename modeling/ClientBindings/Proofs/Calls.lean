import ClientBindings.Proofs.Bodies
import ClientBindings.Proofs.Methods
import ClientBindings.Proofs.Overloads

/-!
# Calls — what the methods of a message send

A remote call takes its arguments by position.  The signature of a method, the variables that it
declares and the arguments that it sends are written one after the other, each by a pass of its own
over the parameters; here they are put side by side.

* `Source.Passes` — parameters, their arguments and the variables declared for them, in step;
* `Source.MethodSource.header`, `header_opens`, `MethodSource.answer` — the lines around them;
* `Source.MethodSource.Sends`, `sends_of_ofMessage` — what one method sends;
* `Source.Consistent`, `consistent_of_methodLines` — what all methods of a message send.
-/

namespace ClientBindings

/-- The end of one text is the end of the other where the two texts are one. -/
theorem Text.suffix_of_append_eq {a b s t : String} (h : a ++ s = b ++ t) :
    s.toList <:+ t.toList ∨ t.toList <:+ s.toList := by
  have lists : a.toList ++ s.toList = b.toList ++ t.toList := by
    rw [← String.toList_append, ← String.toList_append, h]
  refine List.suffix_or_suffix_of_suffix (List.suffix_append a.toList _) ?_
  rw [lists]
  exact List.suffix_append _ _

/-- The arguments that go in front of those for the parameters. -/
def Message.leadingArguments (message : Message) : List String :=
  (if message.needsSession then ["sessionReference"] else []) ++
    (if message.isStatic then [] else ["this.ref"])

namespace Source

open Emission

/-! ## Lines of a call -/

def sessionLine : String :=
  "        String sessionReference = c.getSessionReference();"

/-- The line that declares the map of a record. -/
def mapLine (name : String) : String :=
  "        var " ++ mapVariable name ++ " = " ++ name ++ ".toMap();"

def argumentsLine (arguments : List String) : String :=
  "        Object[] methodParameters = \x7b" ++ Text.joined ", " arguments ++ "\x7d;"

/-- A line that declares the session, or the map of a record. -/
def IsDeclaration (line : String) : Prop :=
  line = sessionLine ∨ ∃ name, line = mapLine name

/-! ### How lines open -/

/-- A line opens with a text. -/
def Opens (opening line : String) : Prop :=
  ∃ rest, line = opening ++ rest

theorem opens_self (line : String) : Opens line line :=
  ⟨"", String.append_empty.symm⟩

theorem opens_append (opening rest : String) : Opens opening (opening ++ rest) :=
  ⟨rest, rfl⟩

theorem Opens.append {opening line : String} (h : Opens opening line) (more : String) :
    Opens opening (line ++ more) := by
  rcases h with ⟨rest, rfl⟩
  exact ⟨rest ++ more, String.append_assoc⟩

/-- What is put in front of a line is put in front of its opening. -/
theorem Opens.behind {opening line : String} (h : Opens opening line) (front : String) :
    Opens (front ++ opening) (front ++ line) := by
  rcases h with ⟨rest, rfl⟩
  exact ⟨rest, String.append_assoc.symm⟩

theorem Opens.ne {opening line other : String} (h : Opens opening line)
    (apart : ¬(opening.toList <+: other.toList ∨ other.toList <+: opening.toList)) :
    other ≠ line := by
  rintro rfl
  rcases h with ⟨rest, same⟩
  exact apart (Text.prefix_of_append_eq (same.symm.trans String.append_empty.symm))

def declarationOpenings : List String :=
  ["        String sessionReference = ", "        var "]

theorem IsDeclaration.opens {line : String} (h : IsDeclaration line) :
    ∃ opening ∈ declarationOpenings, Opens opening line := by
  rcases h with rfl | ⟨name, rfl⟩
  · refine ⟨"        String sessionReference = ", List.mem_cons_self, ?_⟩
    exact ⟨"c.getSessionReference();", by decide +kernel⟩
  · refine ⟨"        var ", List.mem_cons_of_mem _ List.mem_cons_self, ?_⟩
    exact (((opens_append _ _).append _).append _).append _

/-- A line that opens in another way is no declaration. -/
theorem not_isDeclaration_of_opens {opening line : String} (h : Opens opening line)
    (apart : ∀ other ∈ declarationOpenings,
      ¬(opening.toList <+: other.toList ∨ other.toList <+: opening.toList)) :
    ¬IsDeclaration line := by
  intro declares
  rcases declares.opens with ⟨other, hother, tail, same⟩
  rcases h with ⟨rest, opens⟩
  exact apart other hother (Text.prefix_of_append_eq (opens.symm.trans same))

theorem not_isDeclaration_empty : ¬IsDeclaration "" := by
  intro declares
  rcases declares.opens with ⟨opening, hopening, rest, same⟩
  have filled : ∀ opening ∈ declarationOpenings, opening ≠ "" := by decide +kernel
  exact filled opening hopening (String.append_eq_empty_iff.mp same.symm).1

/-! ## Parameters -/

/-- Parameters, their arguments and the lines that declare variables for them, in step: a record is
sent as the map that is declared from it, and any other parameter as itself. -/
inductive Passes : List Param → List String → List String → Prop where
  | nil : Passes [] [] []
  | plain {p : Param} {params : List Param} {arguments declared : List String} :
      (∀ cls, p.ty ≠ .record cls) → Passes params arguments declared →
      Passes (p :: params) (p.memberName :: arguments) declared
  | mapped {p : Param} {params : List Param} {arguments declared : List String} {cls : String} :
      p.ty = .record cls → Passes params arguments declared →
      Passes (p :: params) (mapVariable p.memberName :: arguments)
        (mapLine p.memberName :: declared)

theorem argument_of_record {p : Param} {cls : String} (h : p.ty = .record cls) :
    argument p = .mapped p.memberName := by
  simp only [argument, h]

theorem argument_of_ne_record {p : Param} (h : ∀ cls, p.ty ≠ .record cls) :
    argument p = .plain p.memberName := by
  unfold argument
  split
  · next cls same => exact absurd same (h cls)
  · rfl

/-- The lines that declare variables for some parameters. -/
def declared (params : List Param) : List String :=
  params.flatMap fun p => MethodSource.localLine (argument p)

theorem passes_argument (params : List Param) :
    Passes params ((params.map argument).map Argument.text) (declared params) := by
  induction params with
  | nil => exact .nil
  | cons p rest ih =>
    by_cases isRecord : ∃ cls, p.ty = .record cls
    · rcases isRecord with ⟨cls, record⟩
      simp only [List.map_cons, declared, List.flatMap_cons, argument_of_record record]
      exact .mapped record ih
    · have other : ∀ cls, p.ty ≠ .record cls := fun cls same => isRecord ⟨cls, same⟩
      simp only [List.map_cons, declared, List.flatMap_cons, argument_of_ne_record other]
      exact .plain other ih

theorem Passes.isMap {params : List Param} {arguments declared : List String}
    (h : Passes params arguments declared) : ∀ line ∈ declared, ∃ name, line = mapLine name := by
  induction h with
  | nil => simp
  | plain _ _ ih => exact ih
  | mapped _ _ ih => exact List.forall_mem_cons.mpr ⟨⟨_, rfl⟩, ih⟩

theorem text_wireArguments (message : Message) (params : List Param) :
    (wireArguments message params).map Argument.text =
      message.leadingArguments ++ (params.map argument).map Argument.text := by
  unfold wireArguments Message.leadingArguments
  rw [List.map_append, List.map_append]
  cases message.needsSession <;> cases message.isStatic <;> rfl

/-- Only parameters have variables declared for them. -/
theorem localLine_wireArguments (message : Message) (params : List Param) :
    (wireArguments message params).flatMap MethodSource.localLine = declared params := by
  unfold wireArguments declared
  rw [List.flatMap_append, List.flatMap_append, List.flatMap_map]
  cases message.needsSession <;> cases message.isStatic <;> rfl

/-- What is sent for some parameters is sent first for more of them. -/
theorem prefix_wireArguments (message : Message) {given params : List Param}
    (h : given <+: params) : wireArguments message given <+: wireArguments message params := by
  unfold wireArguments
  exact List.prefix_append_right_inj _ |>.mpr (h.map argument)

/-! ## Around the declarations -/

variable {s : Settings} {cls : ApiClass} {message : Message} {params : List Param} {async : Bool}
  {m : MethodSource}

namespace MethodSource

def callLine (m : MethodSource) : String :=
  "        String methodCall = \"" ++ m.call ++ "\";"

/-- The line that names a method and its parameters. -/
def signatureLine (m : MethodSource) : String :=
  "    public " ++ (if m.isStatic then "static " else "") ++ m.returnType ++ " " ++ m.name ++
    "(" ++ m.signature ++ ") throws"

/-- The lines in front of the declarations. -/
def header (m : MethodSource) : List String :=
  m.docLines ++ (if m.mark = "" then [] else ["    " ++ m.mark]) ++ [m.signatureLine] ++
    throwLines m.throws ++ [m.callLine]

/-- The lines behind the arguments. -/
def answer (m : MethodSource) : List String :=
  answerLines m.returned ++ ["    \x7d", ""]

theorem lines_eq (m : MethodSource) :
    m.lines = m.header ++ (if m.needsSession then [sessionLine] else []) ++
      m.arguments.flatMap localLine ++ argumentsLine (m.arguments.map Argument.text) :: m.answer := by
  unfold lines header answer signatureLine callLine argumentsLine sessionLine
  simp only [List.append_assoc, List.cons_append, List.nil_append]

/-- How the lines of a header open. -/
def headerOpenings : List String :=
  ["    /**", "     *", "    " ++ "@Deprecated(since = \"", "    public ",
    "       " ++ "BadServerResponse", "       " ++ "XenAPIException", "       " ++ "IOException",
    "       " ++ "Types.", "        String methodCall = \""]

theorem headerOpenings_apart : ∀ opening ∈ headerOpenings, ∀ other ∈ declarationOpenings,
    ¬(opening.toList <+: other.toList ∨ other.toList <+: opening.toList) := by
  decide +kernel

theorem common_mem_headerOpenings : ∀ error ∈ commonErrors.map Prod.fst,
    "       " ++ error ∈ headerOpenings := by
  decide +kernel

theorem exists_of_mem_throwLines {errors : List String} {line : String}
    (h : line ∈ throwLines errors) : ∃ error ∈ errors, Opens ("       " ++ error) line := by
  induction errors with
  | nil => cases h
  | cons error rest ih =>
    cases rest with
    | nil =>
      refine ⟨error, List.mem_cons_self, ?_⟩
      rw [List.mem_singleton.mp h]
      exact opens_append _ _
    | cons next others =>
      rcases List.mem_cons.mp h with first | later
      · refine ⟨error, List.mem_cons_self, ?_⟩
        rw [first]
        exact opens_append _ _
      · rcases ih later with ⟨other, hother, opens⟩
        exact ⟨other, List.mem_cons_of_mem _ hother, opens⟩

end MethodSource

theorem mark_opens {releases : List Release} {life : Lifecycle} {mark : String}
    (h : (Comment.deprecationMark releases life).result = .ok mark) (marked : mark ≠ "") :
    Opens "@Deprecated(since = \"" mark := by
  rcases result_bind_eq_ok.mp h with ⟨release, _, h⟩
  split at h
  · exact absurd (Except.ok.inj h).symm marked
  · rw [← Except.ok.inj h]
    exact (opens_append _ _).append _

theorem exceptionName_opens {e : ErrorDef} {name : String}
    (h : (exceptionName e).result = .ok name) : Opens "Types." name := by
  rcases result_bind_eq_ok.mp h with ⟨text, _, h⟩
  rw [← Except.ok.inj h]
  exact opens_append _ _

/-- The parts of a method that make up its call. -/
structure CallParts (s : Settings) (message : Message) (params : List Param) (async : Bool)
    (m : MethodSource) : Prop where
  typed : params.mapM (fun p => (parameter p).result) = .ok m.params
  mark : (Comment.deprecationMark s.releases message.lifecycle).result = .ok m.mark
  call : m.call = remoteCall message async
  needsSession : m.needsSession = message.needsSession
  arguments : m.arguments = wireArguments message params

theorem callParts_of_ofMessage
    (h : (MethodSource.ofMessage s cls message params async).result = .ok m) :
    CallParts s message params async m := by
  rcases result_bind_eq_ok.mp h with ⟨javaType, _, h⟩
  rcases result_bind_eq_ok.mp h with ⟨name, _, h⟩
  rcases result_bind_eq_ok.mp h with ⟨typed, htyped, h⟩
  rcases result_bind_eq_ok.mp h with ⟨doc, _, h⟩
  rcases result_bind_eq_ok.mp h with ⟨mark, hmark, h⟩
  rcases result_bind_eq_ok.mp h with ⟨exceptions, _, h⟩
  rcases result_bind_eq_ok.mp h with ⟨u, _, hreturn⟩
  rw [result_mapM] at htyped
  cases hreturn
  exact ⟨htyped, hmark, rfl, rfl, rfl⟩

theorem header_opens (made : (MethodSource.ofMessage s cls message params async).result = .ok m) :
    ∀ line ∈ m.header, ∃ opening ∈ MethodSource.headerOpenings, Opens opening line := by
  rcases exists_methodParts made with ⟨parts⟩
  have call := callParts_of_ofMessage made
  intro line hline
  -- The lines of a header: comment, mark, signature, exceptions and the name of the call.
  simp only [MethodSource.header, MethodSource.docLines, List.mem_append, List.mem_singleton,
    List.mem_map] at hline
  rcases hline with (((((rfl | ⟨text, _, rfl⟩) | rfl) | marked) | rfl) | thrown) | rfl
  · exact ⟨"    /**", by decide +kernel, "", by decide +kernel⟩
  · exact ⟨"     *", by decide +kernel, opens_append _ _⟩
  · exact ⟨"     *", by decide +kernel, "/", by decide +kernel⟩
  · by_cases unmarked : m.mark = ""
    · simp [unmarked] at marked
    · rw [if_neg unmarked] at marked
      rw [List.mem_singleton.mp marked]
      exact ⟨_, by decide +kernel, (mark_opens call.mark unmarked).behind _⟩
  · exact ⟨"    public ", by decide +kernel,
      ((((((opens_append _ _).append _).append _).append _).append _).append _).append _⟩
  · rcases MethodSource.exists_of_mem_throwLines thrown with ⟨error, herror, tail, rfl⟩
    rw [parts.throws] at herror
    rcases List.mem_append.mp herror with common | declared
    · exact ⟨_, MethodSource.common_mem_headerOpenings error common, opens_append _ _⟩
    · rcases Except.exists_of_mem_of_mapM_eq_ok parts.named declared with ⟨e, _, named⟩
      refine ⟨"       " ++ "Types.", by decide +kernel, ?_⟩
      exact ((exceptionName_opens named).behind _).append _
  · exact ⟨"        String methodCall = \"", by decide +kernel, (opens_append _ _).append _⟩

theorem not_isDeclaration_of_mem_header
    (made : (MethodSource.ofMessage s cls message params async).result = .ok m) :
    ∀ line ∈ m.header, ¬IsDeclaration line := by
  intro line hline
  rcases header_opens made line hline with ⟨opening, hopening, opens⟩
  exact not_isDeclaration_of_opens opens (MethodSource.headerOpenings_apart opening hopening)

/-- The variable for the type of an answer is declared in other words than a map. -/
theorem not_isDeclaration_typeReference (javaType : String) :
    ¬IsDeclaration ("        var typeReference = new TypeReference<" ++ javaType ++ ">()\x7b\x7d;") := by
  rintro (session | ⟨name, map⟩)
  · have opens := (opens_append "        var typeReference = new TypeReference<" javaType).append
      ">()\x7b\x7d;"
    exact opens.ne (by decide +kernel) session.symm
  · have ended := Text.suffix_of_append_eq map
    exact absurd ended (by decide +kernel)

theorem not_isDeclaration_of_mem_answer (m : MethodSource) :
    ∀ line ∈ m.answer, ¬IsDeclaration line := by
  have dispatch : ¬IsDeclaration "        c.dispatch(methodCall, methodParameters);" :=
    not_isDeclaration_of_opens (opens_self _) (by decide +kernel)
  have answered : ¬IsDeclaration
      "        return c.dispatch(methodCall, methodParameters, typeReference);" :=
    not_isDeclaration_of_opens (opens_self _) (by decide +kernel)
  have closed : ∀ line ∈ ["    \x7d", ""], ¬IsDeclaration line := by
    have brace : ¬IsDeclaration "    \x7d" :=
      not_isDeclaration_of_opens (opens_self _) (by decide +kernel)
    simpa using ⟨brace, not_isDeclaration_empty⟩
  unfold MethodSource.answer
  refine List.forall_mem_append.mpr ⟨?_, closed⟩
  cases m.returned with
  | nothing => exact List.forall_mem_singleton.mpr dispatch
  | value javaType =>
    refine List.forall_mem_cons.mpr ⟨not_isDeclaration_typeReference javaType, ?_⟩
    exact List.forall_mem_singleton.mpr answered
  | task =>
    refine List.forall_mem_cons.mpr ⟨not_isDeclaration_typeReference "Task", ?_⟩
    exact List.forall_mem_singleton.mpr answered

theorem sessionLine_ne_mapLine (name : String) : sessionLine ≠ mapLine name := by
  have opens : Opens "        var " (mapLine name) :=
    (((opens_append _ _).append _).append _).append _
  exact opens.ne (by decide +kernel)

theorem sessionLine_ne_argumentsLine (arguments : List String) :
    sessionLine ≠ argumentsLine arguments := by
  have opens : Opens "        Object[] methodParameters = \x7b" (argumentsLine arguments) :=
    (opens_append _ _).append _
  exact opens.ne (by decide +kernel)

/-! ## One method -/

theorem parameter_eq_ok {p : Param} {typed : String × String}
    (h : (parameter p).result = .ok typed) :
    p.ty.javaType.result = .ok typed.1 ∧ p.memberName = typed.2 := by
  rcases result_bind_eq_ok.mp h with ⟨javaType, hty, h⟩
  rcases result_bind_eq_ok.mp h with ⟨name, hname, hreturn⟩
  rw [← Except.ok.inj hreturn]
  refine ⟨hty, ?_⟩
  rw [Param.memberName, Json.asText_eq_ok hname]
  rfl

/-- What a method for some parameters of a message sends. -/
structure MethodSource.Sends (message : Message) (params : List Param) (async : Bool)
    (m : MethodSource) : Prop where
  call : m.call = remoteCall message async
  /-- The signature has the types and the names of the parameters, in order. -/
  typed : List.Forall₂ (fun p t => p.ty.javaType.result = .ok t.1 ∧ p.memberName = t.2) params
    m.params
  signature : m.signatureLine ∈ m.lines
  session : sessionLine ∈ m.lines ↔ message.needsSession = true
  /-- The session, if the message needs one, the object, unless the message is static, and then the
  parameters are sent; in front of that the maps among them are declared, in step. -/
  body : ∃ arguments declared before after, Passes params arguments declared ∧
    m.arguments.map Argument.text = message.leadingArguments ++ arguments ∧
    m.lines = before ++ (if message.needsSession then [sessionLine] else []) ++ declared ++
      argumentsLine (m.arguments.map Argument.text) :: after ∧
    ∀ line ∈ before ++ after, ¬IsDeclaration line

theorem sends_of_ofMessage
    (made : (MethodSource.ofMessage s cls message params async).result = .ok m) :
    m.Sends message params async := by
  have parts := callParts_of_ofMessage made
  have passes := passes_argument params
  have around : ∀ line ∈ m.header ++ m.answer, ¬IsDeclaration line :=
    List.forall_mem_append.mpr
      ⟨not_isDeclaration_of_mem_header made, not_isDeclaration_of_mem_answer m⟩
  have lines := m.lines_eq
  rw [parts.needsSession, parts.arguments, localLine_wireArguments, ← parts.arguments] at lines
  refine ⟨parts.call, ?_, ?_, ?_, ?_⟩
  · exact (Except.mapM_eq_ok.mp parts.typed).imp fun _ _ => parameter_eq_ok
  · rw [lines]
    simp [MethodSource.header]
  · -- Without a session, no other line is the one that declares it.
    have outside : sessionLine ∉ m.header ++ m.answer := fun there => around _ there (Or.inl rfl)
    have maps : sessionLine ∉ declared params := by
      intro there
      rcases passes.isMap _ there with ⟨name, same⟩
      exact sessionLine_ne_mapLine name same
    have sent := sessionLine_ne_argumentsLine (m.arguments.map Argument.text)
    rw [List.mem_append, not_or] at outside
    rw [lines]
    cases message.needsSession with
    | true => simp
    | false => simp [outside, maps, sent]
  · refine ⟨_, _, m.header, m.answer, passes, ?_, lines, around⟩
    rw [parts.arguments, text_wireArguments]

/-! ## All methods of a message -/

/-- What the methods for some parameters of a message send. -/
structure Consistent (message : Message) (params : List Param) (methods : List MethodSource) :
    Prop where
  /-- There is a method for each mode of the message: the asynchronous one, if there is one, and the
  other. -/
  each : List.Forall₂ (fun async m => m.Sends message params async) message.modes methods
  /-- They have the same parameters and send the same arguments. -/
  alike : ∀ m ∈ methods, ∀ n ∈ methods, m.signature = n.signature ∧ m.arguments = n.arguments
  /-- What they send is sent first by the methods for all parameters. -/
  leading : ∀ m ∈ methods, m.arguments <+: wireArguments message message.params

theorem consistent_of_ofMessage {methods : List MethodSource} (given : params <+: message.params)
    (made : message.modes.mapM (fun async =>
      (MethodSource.ofMessage s cls message params async).result) = .ok methods) :
    Consistent message params methods := by
  -- Whether a method starts a task plays no part in what it asks for and what it sends.
  have parts : ∀ m ∈ methods, ∃ async, CallParts s message params async m := by
    intro m hm
    rcases Except.exists_of_mem_of_mapM_eq_ok made hm with ⟨async, _, result⟩
    exact ⟨async, callParts_of_ofMessage result⟩
  refine ⟨(Except.mapM_eq_ok.mp made).imp fun _ _ => sends_of_ofMessage, ?_, ?_⟩
  · intro m hm n hn
    rcases parts m hm with ⟨_, first⟩
    rcases parts n hn with ⟨_, second⟩
    have typed : m.params = n.params := Except.ok.inj (first.typed.symm.trans second.typed)
    refine ⟨?_, first.arguments.trans second.arguments.symm⟩
    rw [MethodSource.signature, MethodSource.signature, typed]
  · intro m hm
    rcases parts m hm with ⟨_, first⟩
    rw [first.arguments]
    exact prefix_wireArguments message given

/-- The methods of a message come in groups, one for each list of parameters, and are consistent. -/
theorem consistent_of_methodLines {lines : List String}
    (h : (methodLines s cls message).result = .ok lines) :
    ∃ groups, lines = groups.flatten.flatMap MethodSource.lines ∧
      List.Forall₂ (Consistent message) (overloads message.params) groups := by
  rcases result_bind_eq_ok.mp h with ⟨methods, hmethods, hreturn⟩
  rcases messageMethods_eq_ok hmethods with ⟨groups, rfl, made⟩
  refine ⟨groups, (Except.ok.inj hreturn).symm, ?_⟩
  have fronts : ∀ params ∈ overloads message.params, params <+: message.params := by
    intro params hparams
    rcases mem_overloads_iff.mp hparams with ⟨left, parted, _⟩
    exact ⟨left, parted.symm⟩
  have each := (List.forall₂_and_left _ _).mpr ⟨fronts, Except.mapM_eq_ok.mp made⟩
  refine each.imp ?_
  rintro params methods ⟨given, result⟩
  exact consistent_of_ofMessage given result

end Source

/-! ## A call with a record and a flag -/

namespace Sample

def settings : Settings :=
  ⟨"p", "", [], []⟩

def machines : ApiClass :=
  ⟨.text "VM", .text "", [], [], ⟨Lifecycle.publishedState, .null, .null⟩⟩

def parameter (name : String) (ty : Ty) (optional : Bool) : Param :=
  ⟨.text name, ty, .text "", optional, ⟨Lifecycle.publishedState, .null, .null⟩⟩

/-- A message with a record and a flag that may be left out. -/
def configuring : Message where
  cls := .text "VM"
  name := .text "set_config"
  params := [parameter "config" (.record "VM") false, parameter "force" (.scalar .bool) true]
  answer := some ⟨.ref "VM", .text ""⟩
  description := .text ""
  needsSession := true
  isAsync := true
  isStatic := false
  errors := []
  lifecycle := ⟨Lifecycle.publishedState, .null, .null⟩
  minRole := .text "pool-admin"

end Sample

namespace Source

theorem consistent_configuring :
    ∃ lines, (methodLines Sample.settings Sample.machines Sample.configuring).result = .ok lines ∧
      ["        String sessionReference = c.getSessionReference();",
          "        var config_map = config.toMap();",
          "        Object[] methodParameters = \x7bsessionReference, this.ref, config_map, force\x7d;"]
        <:+: lines ∧
      ∃ groups, lines = groups.flatten.flatMap MethodSource.lines ∧
        List.Forall₂ (Consistent Sample.configuring) (overloads Sample.configuring.params) groups := by
  have sent : ∃ lines,
      (methodLines Sample.settings Sample.machines Sample.configuring).result = .ok lines ∧
      ["        String sessionReference = c.getSessionReference();",
          "        var config_map = config.toMap();",
          "        Object[] methodParameters = \x7bsessionReference, this.ref, config_map, force\x7d;"]
        <:+: lines := by
    decide +kernel
  rcases sent with ⟨lines, generated, body⟩
  exact ⟨lines, generated, body, consistent_of_methodLines generated⟩

end Source
end ClientBindings
