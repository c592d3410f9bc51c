import ClientBindings.Source.Method
import ClientBindings.Source.Record

/-!
# Class — the source of one class

A class with fields wraps a reference to an object: its source declares the reference, equality by
reference, the nested record, and the methods of its messages.  A class without fields has nothing
to refer to and declares its methods only.

The record of the event class has members that the schema does not declare: the kind of the object
an event is about, unless the schema declares it, and the record of that object.

* `ClassSource` — the parts of a source;
* `ClassSource.ofClass`, `ClassSource.lines`, `ClassSource.text` — a source and its text.
-/

namespace ClientBindings
namespace Source

/-! ## Events -/

/-- Wire name of the kind of the object that an event is about. -/
def eventKindField : String := "class"

/-- Wire name, and name, of the record of the object that an event is about. -/
def snapshotField : String := "snapshot"

def eventKindMember (javaType : String) : SyntheticMember where
  name := Naming.camelCase eventKindField
  wireName := eventKindField
  javaType := javaType
  description := "The class of the object that was added, changed or deleted"
  layoutType := some (.scalar .string)

def snapshotMember : SyntheticMember where
  name := snapshotField
  wireName := snapshotField
  javaType := "Object"
  description := "The record of the database object that was added, changed or deleted\n" ++
    "(the actual type will be VM.Record, VBD.Record or similar)"
  layoutType := none

/-- Members of the record of a class that the schema does not declare. -/
def syntheticMembers (cls : ApiClass) : Emission (List SyntheticMember) := do
  if isEvent (← cls.name.asText) then
    -- A schema may declare the kind itself, with a description of its own.
    let kind ←
      if (← cls.namedLeaves).any fun leaf => leaf.path = eventKindField then pure []
      else do
        let javaType ← (Ty.scalar .string).javaType
        pure [eventKindMember javaType]
    return kind ++ [snapshotMember]
  else return []

/-! ## Parts of a source -/

structure ClassSource where
  /-- The text in front of the source. -/
  licenceHeader : String
  package : String
  doc : List String
  /-- Name of the class. -/
  name : String
  /-- The nested record, if there is something to refer to. -/
  record : Option RecordSource
  methods : List MethodSource

namespace ClassSource

def imports : List String :=
  ["import com.fasterxml.jackson.annotation.JsonProperty;",
    "import com.fasterxml.jackson.core.type.TypeReference;",
    "import com.xensource.xenapi.Types.BadServerResponse;",
    "import com.xensource.xenapi.Types.XenAPIException;",
    "import java.io.PrintWriter;",
    "import java.io.StringWriter;",
    "import java.util.*;",
    "import java.io.IOException;"]

def docLines (c : ClassSource) : List String :=
  ["/**"] ++ c.doc.map (" *" ++ ·) ++ [" */"]

/-- The answer of a class without fields to the question for its reference. -/
def unreferencedLines : List String :=
  ["",
    "    public String toWireString() \x7b",
    "        return null;",
    "    \x7d",
    ""]

def referenceLines (name : String) : List String :=
  ["    /**",
    "     * The XenAPI reference (OpaqueRef) to this object.",
    "     */",
    "    protected final String ref;",
    "",
    "    /**",
    "     * For internal use only.",
    "     */",
    "    " ++ name ++ "(String ref) \x7b",
    "       this.ref = ref;",
    "    \x7d",
    "",
    "    /**",
    "     * @return The XenAPI reference (OpaqueRef) to this object.",
    "     */",
    "    public String toWireString() \x7b",
    "       return this.ref;",
    "    \x7d",
    ""]

def equalityLines (name : String) : List String :=
  ["    /**",
    "     * If obj is a " ++ name ++ ", compares XenAPI references for equality.",
    "     */",
    "    @Override",
    "    public boolean equals(Object obj)",
    "    \x7b",
    "        if (obj instanceof " ++ name ++ ")",
    "        \x7b",
    "            " ++ name ++ " other = (" ++ name ++ ") obj;",
    "            return other.ref.equals(this.ref);",
    "        \x7d else",
    "        \x7b",
    "            return false;",
    "        \x7d",
    "    \x7d",
    "",
    "    @Override",
    "    public int hashCode()",
    "    \x7b",
    "        return ref.hashCode();",
    "    \x7d",
    ""]

/-- Reference, equality and record; only the missing reference without a record. -/
def objectLines (name : String) : Option RecordSource → List String
  | none => unreferencedLines
  | some record => referenceLines name ++ equalityLines name ++ record.lines

def lines (c : ClassSource) : List String :=
  Comment.licenceLines c.licenceHeader ++
  ["package " ++ c.package ++ ";"] ++
  imports ++
  [""] ++
  c.docLines ++
  ["public class " ++ c.name ++ " extends XenAPIObject \x7b", ""] ++
  objectLines c.name c.record ++
  c.methods.flatMap MethodSource.lines ++
  ["\x7d"]

def text (c : ClassSource) : String :=
  Text.joined "\n" c.lines

/-! ## From a class -/

def classDoc (s : Settings) (cls : ApiClass) : Emission (List String) := do
  let description ← Comment.described cls.description
  let info ← Comment.publishedInfo s.releases cls.lifecycle
  return [" " ++ description] ++ (if info = "" then [] else [" " ++ info]) ++
    ["", " @author Cloud Software Group, Inc."]

def classRecord (s : Settings) (cls : ApiClass) : Emission (Option RecordSource) := do
  if cls.isEmpty then return none
  else
    let synthetic ← syntheticMembers cls
    return some (← RecordSource.ofClass s cls synthetic)

/-- The source of a class. -/
def ofClass (s : Settings) (cls : ApiClass) : Emission ClassSource := do
  -- A class without a name has no source, whatever else it holds.
  let name ← cls.name.asText
  let doc ← classDoc s cls
  let record ← classRecord s cls
  let methods ← cls.messages.mapM (messageMethods s cls)
  return {
    doc, record
    licenceHeader := s.licenceHeader
    package := s.package
    name := Naming.classCase name
    methods := methods.flatten
  }

end ClassSource
end Source
end ClientBindings
