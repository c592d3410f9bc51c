import ClientBindings.Comment
import ClientBindings.Naming
import ClientBindings.Source.Settings

/-!
# Method — the methods that send a message

A message becomes one method for each way to leave out optional parameters at its end, and, if it
may run in the background, an asynchronous method in front of each.

* `overloads` — the parameter lists of the methods, longest first;
* `MethodSource` — the parts of a method;
* `MethodSource.ofMessage`, `MethodSource.lines` — a method and its text;
* `methodLines` — all methods of a message.
-/

namespace ClientBindings

/-- Name of a parameter in the signature of a method. -/
def Param.memberName (p : Param) : String :=
  Naming.camelCase p.name.display

namespace Source

/-! ## Overloads -/

/-- How many parameters cannot be left out: those up to the last one that is not optional. -/
def mandatoryCount (params : List Param) : Nat :=
  (params.reverse.dropWhile Param.optional).length

/-- Parameter lists of the methods of a message.  Parameters are left out from the end, one by one,
while they are optional. -/
def overloads (params : List Param) : List (List Param) :=
  let mandatory := mandatoryCount params
  (List.range (params.length + 1 - mandatory)).map fun left => params.take (params.length - left)

/-! ## Parts of a method -/

/-- An argument of the remote call. -/
inductive Argument where
  | session
  | self
  | plain (name : String)
  /-- A record, which travels as the map that a local variable holds. -/
  | mapped (name : String)
  deriving DecidableEq

/-- The local variable that holds the map of a record. -/
def mapVariable (name : String) : String :=
  name ++ "_map"

def Argument.text : Argument → String
  | session => "sessionReference"
  | self => "this.ref"
  | plain name => name
  | mapped name => mapVariable name

/-- What a method does with the answer to its call. -/
inductive Returned where
  | nothing
  | value (javaType : String)
  | task
  deriving DecidableEq

structure MethodSource where
  doc : List String
  mark : String
  isStatic : Bool
  returnType : String
  name : String
  /-- Types and names of the parameters. -/
  params : List (String × String)
  throws : List String
  /-- Name of the remote call. -/
  call : String
  needsSession : Bool
  arguments : List Argument
  returned : Returned

namespace MethodSource

/-- Exceptions of every call, with what a comment says about them. -/
def commonErrors : List (String × String) :=
  [("BadServerResponse", "Thrown if the response from the server contains an invalid status."),
    ("XenAPIException", "if the call failed."),
    ("IOException",
      "if an error occurs during a send or receive. This includes cases where " ++
        "a payload is invalid JSON.")]

/-! ## Text -/

def docLines (m : MethodSource) : List String :=
  ["    /**"] ++ m.doc.map ("     *" ++ ·) ++ ["     */"]

def signature (m : MethodSource) : String :=
  Text.joined ", " ("Connection c" :: m.params.map fun p => p.1 ++ " " ++ p.2)

/-- Lines of the exceptions: a comma after each but the last, which opens the body. -/
def throwLines : List String → List String
  | [] => []
  | [last] => ["       " ++ last ++ " \x7b"]
  | error :: rest => ("       " ++ error ++ ",") :: throwLines rest

def localLine : Argument → List String
  | .mapped name => ["        var " ++ mapVariable name ++ " = " ++ name ++ ".toMap();"]
  | _ => []

def answerLines : Returned → List String
  | .nothing => ["        c.dispatch(methodCall, methodParameters);"]
  | .value javaType =>
    ["        var typeReference = new TypeReference<" ++ javaType ++ ">()\x7b\x7d;",
      "        return c.dispatch(methodCall, methodParameters, typeReference);"]
  | .task =>
    ["        var typeReference = new TypeReference<Task>()\x7b\x7d;",
      "        return c.dispatch(methodCall, methodParameters, typeReference);"]

def lines (m : MethodSource) : List String :=
  m.docLines ++
  (if m.mark = "" then [] else ["    " ++ m.mark]) ++
  ["    public " ++ (if m.isStatic then "static " else "") ++ m.returnType ++ " " ++ m.name ++
    "(" ++ m.signature ++ ") throws"] ++
  throwLines m.throws ++
  ["        String methodCall = \"" ++ m.call ++ "\";"] ++
  (if m.needsSession then ["        String sessionReference = c.getSessionReference();"] else []) ++
  m.arguments.flatMap localLine ++
  ["        Object[] methodParameters = \x7b" ++
    Text.joined ", " (m.arguments.map Argument.text) ++ "\x7d;"] ++
  answerLines m.returned ++
  ["    \x7d", ""]

end MethodSource

/-! ## From a message -/

def isEvent (name : String) : Bool :=
  Text.lowered name = "event"

/-- Whether a message is the call that waits for events.  The name of a message is read for the
class of events only. -/
def waitsForEvents (cls : ApiClass) (message : Message) : Except Fault Bool := do
  if isEvent (← cls.name.asText) then return Text.lowered (← message.name.asText) = "from"
  else return false

/-- Type of what a method returns.  The call that waits for events returns a batch of them. -/
def returnType (cls : ApiClass) (message : Message) : Emission String := do
  -- The type is resolved also where it is not shown.
  let javaType ← javaTypeOrVoid (message.answer.map Answer.ty)
  let waits ← waitsForEvents cls message
  return if waits then "EventBatch" else javaType

/-- Type and name of a parameter, which has to be named by a text. -/
def parameter (p : Param) : Emission (String × String) := do
  let javaType ← p.ty.javaType
  return (javaType, Naming.camelCase (← p.name.asText))

/-- Argument for a parameter: a record travels as its map. -/
def argument (p : Param) : Argument :=
  match p.ty with
  | .record _ => .mapped p.memberName
  | _ => .plain p.memberName

/-- Arguments of the remote call: the session if the message needs one, the object unless the
message is static, and the parameters in order. -/
def wireArguments (message : Message) (params : List Param) : List Argument :=
  (if message.needsSession then [.session] else []) ++
  (if message.isStatic then [] else [.self]) ++
  params.map argument

def remoteCall (message : Message) (async : Bool) : String :=
  (if async then "Async." else "") ++ message.cls.display ++ "." ++ message.name.display

/-- Name of the exception for a declared error, which has to be named by a text. -/
def exceptionName (e : ErrorDef) : Emission String := do
  return "Types." ++ Naming.exceptionCase (← e.name.asText)

def paramDoc (s : Settings) (p : Param) : Emission String := do
  let doc ← Comment.describedOr p.description (pure "No description")
  let info ← Comment.publishedInfo s.releases p.lifecycle
  return " @param " ++ p.memberName ++ " " ++ doc ++
    (if info = "" then "" else " " ++ info)

def returnDoc (cls : ApiClass) (message : Message) (async : Bool) : Emission (List String) :=
  if async then pure [" @return Task"]
  else
    match message.answer with
    | none => pure []
    | some answer => do
      return [" @return " ++ (← Comment.describedOr answer.description (returnType cls message))]

def errorDoc (e : ErrorDef) : Emission String := do
  return " @throws " ++ (← exceptionName e) ++ " " ++ (← Comment.described e.description)

/-- Comment of a method, line by line. -/
def methodDoc (s : Settings) (cls : ApiClass) (message : Message) (params : List Param)
    (async : Bool) : Emission (List String) := do
  let description ← Comment.described message.description
  let info ← Comment.publishedInfo s.releases message.lifecycle
  let deprecated ← Comment.deprecatedRelease s.releases message.lifecycle
  let params ← params.mapM (paramDoc s)
  let returned ← returnDoc cls message async
  let errors ← message.errors.mapM errorDoc
  return [" " ++ description, " Minimum allowed role: " ++ message.minRole.display] ++
    (if info = "" then [] else [" " ++ info]) ++
    (if deprecated.truthy then [" @deprecated since " ++ deprecated.display] else []) ++
    ["", " @param c The connection the call is made on"] ++ params ++ returned ++
    MethodSource.commonErrors.map (fun e => " @throws " ++ e.1 ++ " " ++ e.2) ++ errors

/-- One method of a message, for one list of parameters. -/
def MethodSource.ofMessage (s : Settings) (cls : ApiClass) (message : Message)
    (params : List Param) (async : Bool) : Emission MethodSource := do
  let javaType ← Source.returnType cls message
  let name := Naming.camelCase (← message.name.asText) ++ (if async then "Async" else "")
  let typed ← params.mapM parameter
  let doc ← methodDoc s cls message params async
  let mark ← Comment.deprecationMark s.releases message.lifecycle
  let exceptions ← message.errors.mapM exceptionName
  .meet (.note (.method cls.name.display name params.length))
  return {
    doc, mark, name
    isStatic := message.isStatic
    returnType := if async then "Task" else javaType
    params := typed
    throws := MethodSource.commonErrors.map Prod.fst ++ exceptions
    call := remoteCall message async
    needsSession := message.needsSession
    arguments := wireArguments message params
    returned :=
      if async then .task else if message.answer.isNone then .nothing else .value javaType
  }

/-- The methods of one list of parameters: the asynchronous one, if there is one, and the other. -/
def overloadMethods (s : Settings) (cls : ApiClass) (message : Message) (params : List Param) :
    Emission (List MethodSource) := do
  let async ←
    if message.isAsync then
      List.singleton <$> MethodSource.ofMessage s cls message params true
    else pure []
  let sync ← MethodSource.ofMessage s cls message params false
  return async ++ [sync]

/-- Every method of a message. -/
def messageMethods (s : Settings) (cls : ApiClass) (message : Message) :
    Emission (List MethodSource) := do
  return (← (overloads message.params).mapM (overloadMethods s cls message)).flatten

def methodLines (s : Settings) (cls : ApiClass) (message : Message) : Emission (List String) := do
  return (← messageMethods s cls message).flatMap MethodSource.lines

end Source
end ClientBindings
