import ClientBindings.Comment
import ClientBindings.Naming
import ClientBindings.Source.Settings

/-!
# Record — the nested class that holds the fields of an object

A record lists its members three times: as text for printing, as entries of a map, and as
declarations.  All three follow the leaves of the class in order of declaration, and after them the
members that the schema does not declare.

* `SyntheticMember` — a member that the schema does not declare;
* `RecordSource` — the three lists;
* `RecordSource.ofClass` — the record of a class, whose layout is registered;
* `RecordSource.lines` — its text.
-/

namespace ClientBindings

structure SyntheticMember where
  name : String
  wireName : String
  javaType : String
  description : String
  /-- Type under which the member is decoded; none for a member that is decoded by other means. -/
  layoutType : Option Ty

/-- Name of the member that holds a leaf. -/
def Leaf.memberName (leaf : Leaf) : String :=
  Naming.camelCase leaf.path

/-- The leaves of a class, whose names have to be texts. -/
def ApiClass.namedLeaves (cls : ApiClass) : Except Fault (List Leaf) :=
  if cls.leaves.all Leaf.isNamed then .ok cls.leaves else .error .unjoinedNames

namespace Source

/-- An entry of the map of a record; a member without a default is put in as it is. -/
structure MapEntry where
  wireKey : String
  name : String
  default : Option String

structure Declaration where
  doc : List String
  wireKey : String
  /-- The mark of a deprecated member. -/
  mark : Option String
  javaType : String
  name : String

structure RecordSource where
  cls : String
  printed : List String
  mapped : List MapEntry
  declared : List Declaration

/-! ## Text -/

/-- Layout of a printed member: its name in twenty columns, and its value. -/
def printFormat : String := "%1$20s: %2$s\\n"

def printLine (name : String) : String :=
  "            print.printf(\"" ++ printFormat ++ "\", \"" ++ name ++ "\", this." ++ name ++ ");"

namespace MapEntry

def line (e : MapEntry) : String :=
  let value :=
    match e.default with
    | some literal => "this." ++ e.name ++ " == null ? " ++ literal ++ " : this." ++ e.name
    | none => "this." ++ e.name
  "            map.put(\"" ++ e.wireKey ++ "\", " ++ value ++ ");"

end MapEntry

namespace Declaration

def docLines (d : Declaration) : List String :=
  ["        /**"] ++ d.doc.map ("         * " ++ ·) ++ ["         */"]

def lines (d : Declaration) : List String :=
  d.docLines ++ ["        @JsonProperty(\"" ++ d.wireKey ++ "\")"] ++
    d.mark.toList.map ("        " ++ ·) ++
    ["        public " ++ d.javaType ++ " " ++ d.name ++ ";", ""]

end Declaration

namespace RecordSource

def lines (r : RecordSource) : List String :=
  ["    /**",
    "     * Represents all the fields in a " ++ Naming.classCase r.cls,
    "     */",
    "    public static class Record implements Types.Record \x7b",
    "        public String toString() \x7b",
    "            StringWriter writer = new StringWriter();",
    "            PrintWriter print = new PrintWriter(writer);"] ++
  r.printed.map printLine ++
  ["            return writer.toString();",
    "        \x7d",
    "",
    "        /**",
    "         * Convert a " ++ r.cls ++ ".Record to a Map",
    "         */",
    "        public Map<String,Object> toMap() \x7b",
    "            var map = new HashMap<String,Object>();"] ++
  r.mapped.map MapEntry.line ++
  ["            return map;",
    "        \x7d",
    ""] ++
  r.declared.flatMap Declaration.lines ++
  ["    \x7d", ""]

end RecordSource

/-! ## Members -/

/-- Entry of the map for a leaf. -/
def mapEntry (s : Settings) (leaf : Leaf) : Emission MapEntry := do
  let literal ← leaf.field.ty.defaultValue s.overrides
  return ⟨leaf.path, leaf.memberName, some literal⟩

/-- Declaration of a leaf, with its description, its releases, and a mark if it is deprecated. -/
def declaration (s : Settings) (leaf : Leaf) : Emission Declaration := do
  let field := leaf.field
  let javaType ← field.ty.javaType
  let info ← Comment.publishedInfo s.releases field.lifecycle
  let description ← Comment.described field.description
  -- Only the state decides: a release of deprecation alone marks nothing.
  let mark ←
    if field.lifecycle.state = Lifecycle.deprecatedState then
      some <$> Comment.deprecationMark s.releases field.lifecycle
    else pure none
  return ⟨description :: (if info = "" then [] else [info]), leaf.path, mark, javaType,
    leaf.memberName⟩

end Source

namespace SyntheticMember

def mapEntry (m : SyntheticMember) : Source.MapEntry :=
  ⟨m.wireName, m.name, none⟩

def declaration (m : SyntheticMember) : Source.Declaration :=
  ⟨Text.lines m.description, m.wireName, none, m.javaType, m.name⟩

end SyntheticMember

namespace Source
namespace RecordSource

/-- Wire names and types of what a record is decoded from. -/
def layout (leaves : List Leaf) (synthetic : List SyntheticMember) : List (String × Ty) :=
  leaves.map (fun leaf => (leaf.path, leaf.field.ty)) ++
    synthetic.filterMap fun m => m.layoutType.map (m.wireName, ·)

/-- The record of a class.  Its layout is registered first, and stays registered if a member turns
out to have no default. -/
def ofClass (s : Settings) (cls : ApiClass) (synthetic : List SyntheticMember) :
    Emission RecordSource := do
  let leaves ← cls.namedLeaves
  -- The layout is known before any member is written, so it is registered whatever follows.
  .meet (.registration (.record cls.name (layout leaves synthetic)))
  let name ← cls.name.asText
  let mapped ← leaves.mapM (mapEntry s)
  let declared ← leaves.mapM (declaration s)
  .meet (.note (.record name (leaves.length + synthetic.length)))
  return {
    cls := name
    printed := leaves.map Leaf.memberName ++ synthetic.map SyntheticMember.name
    mapped := mapped ++ synthetic.map SyntheticMember.mapEntry
    declared := declared ++ synthetic.map SyntheticMember.declaration
  }

end RecordSource
end Source
end ClientBindings
