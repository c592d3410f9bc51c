import ClientBindings.Registry
import ClientBindings.Resolution
import ClientBindings.Source.Class

/-!
# Decoder — functions from wire objects to typed values

The shared source holds one function for each type that the class sources use.  What such a function
does depends on the type and on a snapshot of the registry, which knows the layouts of records.

* `Dispatch` — the choice of a record decoder by the kind of an object;
* `Decoder` — what the function of a type does, with `Decoder.calls`, the functions it calls;
* `Decoder.ofType` — the decoder of a type;
* `Decoder.text` — its body.
-/

namespace ClientBindings
namespace Shared

/-- Name of the function for a type. -/
def decoderName (ty : Ty) : Except Fault String :=
  ty.decoderName.result

/-- Name of a type in the shared source. -/
def typeName (ty : Ty) : Except Fault String :=
  ty.javaType.result

/-! ## Event snapshots -/

/-- One kind of object and the function for its record. -/
structure DispatchCase where
  kind : String
  decoder : String

namespace DispatchCase

def label (c : DispatchCase) : String :=
  Naming.constantCase c.kind

def line (c : DispatchCase) : String :=
  "            case " ++ c.label ++ ": record." ++ Source.snapshotField ++ " = " ++ c.decoder ++
    "(a); break;"

end DispatchCase

/-- Selects the function for the record of an event's object by the kind of the object. -/
structure Dispatch where
  kindDecoder : String
  /-- The member of the event's record that names the kind. -/
  kindMember : String
  cases : List DispatchCase

namespace Dispatch

def lines (d : Dispatch) : List String :=
  ["        Object a = map.get(\"" ++ Source.snapshotField ++ "\");",
    "        switch (" ++ d.kindDecoder ++ "(record." ++ d.kindMember ++ ")) \x7b"] ++
  d.cases.map DispatchCase.line ++
  ["            default:",
    "                throw new RuntimeException(\"Internal error in auto-generated code whilst " ++
      "unmarshalling event snapshot\");",
    "        \x7d"]

/-- The case of a kind, which has to be the name of a class with a record. -/
def caseOf (snapshot : Snapshot) (kind : Json) : Except Fault DispatchCase :=
  match kind with
  | .text cls =>
    if snapshot.records.has cls then (decoderName (.record cls)).map (⟨cls, ·⟩)
    else .error (.missingSnapshotCase cls)
  | _ => .error (if kind.isScalar then .missingSnapshotCase kind.display else .notAName)

/-- The kinds of objects that a snapshot knows. -/
def kinds (snapshot : Snapshot) : List EnumValue :=
  (snapshot.enums.get? objectKindsName).getD []

/-- One case for each kind of object.  There is none if a kind has no record, so the switch covers
every kind. -/
def ofSnapshot (snapshot : Snapshot) : Except Fault Dispatch := do
  let kinds := kinds snapshot
  let cases ← kinds.mapM fun kind => caseOf snapshot kind.wire
  let kindDecoder ← decoderName (.enum objectKindsName kinds)
  return ⟨kindDecoder, Naming.camelCase Source.eventKindField, cases⟩

end Dispatch

/-! ## Decoders -/

/-- Decodes the value of a wire key into a member of a record. -/
structure Assignment where
  member : String
  wireKey : String
  decoder : String

namespace Assignment

def line (a : Assignment) : String :=
  "        record." ++ a.member ++ " = " ++ a.decoder ++ "(map.get(\"" ++ a.wireKey ++ "\"));"

end Assignment

inductive Decoder where
  | scalar (s : Scalar)
  | reference (name : String)
  | enumeration (name : String)
  | set (item itemDecoder : String)
  | map (key value keyDecoder valueDecoder : String)
  | record (name : String) (assignments : List Assignment) (dispatch : Option Dispatch)

namespace Decoder

def scalarLines : Scalar → List String
  | .string | .secretString => ["return (String) object;"]
  | .int => ["return Long.valueOf((String) object);"]
  | .float => ["return (Double) object;"]
  | .bool => ["return (Boolean) object;"]
  | .datetime =>
    ["try \x7b",
      "            return (Date) object;",
      "        \x7d catch (ClassCastException e) \x7b",
      "            // Dates occasionally arrive as a float of seconds since the epoch",
      "            return (new Date((long) (1000*Double.parseDouble((String) object))));",
      "        \x7d"]

/-- Body of a function, line by line.  An unknown value of an enumeration decodes to a member of its
own, and a collection is returned when all its items are decoded. -/
def lines : Decoder → List String
  | scalar s => scalarLines s
  | reference name => ["return new " ++ name ++ "((String) object);"]
  | enumeration name =>
    ["try \x7b",
      "            return " ++ name ++
        ".valueOf(((String) object).toUpperCase().replace('-','_'));",
      "        \x7d catch (IllegalArgumentException ex) \x7b",
      "            return " ++ name ++ "." ++ Ty.unrecognized ++ ";",
      "        \x7d"]
  | set item itemDecoder =>
    ["Object[] items = (Object[]) object;",
      "        Set<" ++ item ++ "> result = new LinkedHashSet<>();",
      "        for (Object item : items) \x7b",
      "            " ++ item ++ " typed = " ++ itemDecoder ++ "(item);",
      "            result.add(typed);",
      "        \x7d",
      "        return result;"]
  | map key value keyDecoder valueDecoder =>
    ["var map = (Map<Object, Object>) object;",
      "        var result = new HashMap<" ++ key ++ ", " ++ value ++ ">();",
      "        for (var entry : map.entrySet()) \x7b",
      "            var key = " ++ keyDecoder ++ "(entry.getKey());",
      "            var value = " ++ valueDecoder ++ "(entry.getValue());",
      "            result.put(key, value);",
      "        \x7d",
      "        return result;"]
  | record name assignments dispatch =>
    ["Map<String,Object> map = (Map<String,Object>) object;",
      "        " ++ name ++ ".Record record = new " ++ name ++ ".Record();"] ++
    assignments.map Assignment.line ++
    (match dispatch with
      | some d => d.lines
      | none => []) ++
    ["        return record;"]

def text (d : Decoder) : String :=
  Text.joined "\n" d.lines

/-- Functions that a decoder calls. -/
def calls : Decoder → List String
  | scalar _ | reference _ | enumeration _ => []
  | set _ itemDecoder => [itemDecoder]
  | map _ _ keyDecoder valueDecoder => [keyDecoder, valueDecoder]
  | record _ assignments dispatch =>
    assignments.map Assignment.decoder ++
    (match dispatch with
      | some d => d.kindDecoder :: d.cases.map DispatchCase.decoder
      | none => [])

/-- Layout of the record of a class. -/
def recordLayout (snapshot : Snapshot) (cls : String) : Except Fault (List (String × Ty)) :=
  match snapshot.records.get? cls with
  | some layout => .ok layout
  | none => .error (.unregisteredRecord cls)

def assignment (member : String × Ty) : Except Fault Assignment := do
  return ⟨Naming.camelCase member.1, member.1, ← decoderName member.2⟩

/-- The decoder of the record of a class.  That of an event also decodes the record of the object
that the event is about. -/
def ofRecord (snapshot : Snapshot) (cls : String) : Except Fault Decoder := do
  let layout ← recordLayout snapshot cls
  let assignments ← layout.mapM assignment
  let dispatch ←
    if Source.isEvent cls then some <$> Dispatch.ofSnapshot snapshot else pure none
  return .record (Naming.classCase cls) assignments dispatch

def ofType (snapshot : Snapshot) : Ty → Except Fault Decoder
  | .primitive kind =>
    match Scalar.ofName? kind with
    | some s => .ok (.scalar s)
    | none => .error (.unknownScalar kind)
  | .ref cls => .ok (.reference (Naming.classCase cls))
  | .enum name _ => .ok (.enumeration (Naming.classCase name))
  | .set item => do
    return .set (← typeName item) (← decoderName item)
  | .map key value => do
    return .map (← typeName key) (← typeName value) (← decoderName key) (← decoderName value)
  | .record cls => ofRecord snapshot cls
  -- The wire does not tell an option from the type inside it.
  | .option inner => ofType snapshot inner

end Decoder
end Shared
end ClientBindings
