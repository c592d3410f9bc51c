import ClientBindings.Proofs.Fallible
import ClientBindings.Proofs.Table
import ClientBindings.Run

/-!
# Rendering — templates that are filled

Filling a template fails only where it uses a value that its scope lacks, or loops over what is no
list.  The templates of the shared sources use what the scopes of a run supply, so both are filled
whatever the schema says.

* `Piece.Fills`, `FillsAll` — pieces that a scope can fill, kind by kind;
* `fillAll_of_forall₂`, `fill_each` — the text of pieces, and that of the rounds of a loop;
* `EnumEntry.text`, `fillAll_enumPieces` — the text of an enumeration;
* `Run.fillTemplate_types` — the shared source is filled from the declarations of a run;
* `Run.exists_releasesScope`, `Run.fillTemplate_releases` — the source that lists the releases is
  filled from them, once their code names are texts.
-/

namespace ClientBindings
namespace Shared

/-- Whether a scope supplies what a piece uses. -/
def Piece.Fills (scope : Scope) (piece : Piece) : Prop :=
  ∃ text, piece.fill scope = .ok text

def FillsAll (scope : Scope) (pieces : List Piece) : Prop :=
  ∃ text, fillAll scope pieces = .ok text

variable {scope : Scope}

/-! ## Pieces -/

@[simp] theorem fillsAll_nil : FillsAll scope [] :=
  ⟨"", rfl⟩

@[simp] theorem fillsAll_cons {piece : Piece} {rest : List Piece} :
    FillsAll scope (piece :: rest) ↔ piece.Fills scope ∧ FillsAll scope rest := by
  constructor
  · rintro ⟨text, h⟩
    obtain ⟨first, hfirst, h⟩ := Except.bind_eq_ok.mp h
    obtain ⟨others, hothers, _⟩ := Except.bind_eq_ok.mp h
    exact ⟨⟨first, hfirst⟩, others, hothers⟩
  · rintro ⟨⟨first, hfirst⟩, others, hothers⟩
    exact ⟨first ++ others,
      Except.bind_eq_ok.mpr ⟨first, hfirst, Except.bind_eq_ok.mpr ⟨others, hothers, rfl⟩⟩⟩

@[simp] theorem fills_text (s : String) : (Piece.text s).Fills scope :=
  ⟨s, rfl⟩

@[simp] theorem fills_lines (ls : List String) : (Piece.lines ls).Fills scope :=
  fills_text _

theorem value_eq_ok {e : Expr} {v : Json} : e.value scope = .ok v ↔ e.value? scope = some v := by
  unfold Expr.value
  cases e.value? scope <;> simp

@[simp] theorem fills_hole {e : Expr} :
    (Piece.hole e).Fills scope ↔ (e.value? scope).isSome = true := by
  constructor
  · rintro ⟨text, h⟩
    obtain ⟨v, hv, _⟩ := Except.bind_eq_ok.mp h
    exact Option.isSome_iff_exists.mpr ⟨v, value_eq_ok.mp hv⟩
  · intro h
    obtain ⟨v, hv⟩ := Option.isSome_iff_exists.mp h
    exact ⟨v.display, Except.bind_eq_ok.mpr ⟨v, value_eq_ok.mpr hv, rfl⟩⟩

/-- A choice is filled if its test is defined and the branch that the test takes is filled. -/
theorem fills_choose {test : Expr} {v : Json} {yes no : List Piece}
    (defined : test.value? scope = some v) (hyes : v.truthy = true → FillsAll scope yes)
    (hno : v.truthy = false → FillsAll scope no) : (Piece.choose test yes no).Fills scope := by
  have branch : ∃ text, (if v.truthy then fillAll scope yes else fillAll scope no) = .ok text := by
    cases htruthy : v.truthy with
    | true => exact hyes htruthy
    | false => exact hno htruthy
  obtain ⟨text, htext⟩ := branch
  exact ⟨text, Except.bind_eq_ok.mpr ⟨v, value_eq_ok.mpr defined, htext⟩⟩

/-- A loop over a list is filled if its body is filled for every item, in the last round or in
another. -/
theorem fills_each {α : Type} {item : String} {list : Expr} {write : α → Json} {items : List α}
    {body : List Piece} (defined : list.value? scope = some (.list (items.map write)))
    (each : ∀ a ∈ items, ∀ last : Bool,
      FillsAll ((item, write a) :: (loopName, .object [("last", .bool last)]) :: scope) body) :
    (Piece.each item list body).Fills scope := by
  have hitems : list.items scope = .ok (items.map write) :=
    Except.bind_eq_ok.mpr ⟨_, value_eq_ok.mpr defined, rfl⟩
  have filled : ∀ round ∈ rounds scope item (items.map write), FillsAll round body := by
    intro round hround
    obtain ⟨⟨value, index⟩, hmem, rfl⟩ := List.mem_map.mp hround
    obtain ⟨a, ha, rfl⟩ := List.mem_map.mp (List.fst_mem_of_mem_zipIdx hmem)
    exact each a ha _
  obtain ⟨texts, htexts, _⟩ := Except.exists_mapM_eq_ok (R := fun _ _ => True)
    fun round hround => (filled round hround).imp fun _ htext => ⟨htext, trivial⟩
  exact ⟨String.join texts,
    Except.bind_eq_ok.mpr ⟨_, hitems, Except.bind_eq_ok.mpr ⟨texts, htexts, rfl⟩⟩⟩

/-! ## Texts -/

/-- Pieces that are all filled put their texts together. -/
theorem fillAll_of_forall₂ {pieces : List Piece} {texts : List String}
    (each : List.Forall₂ (fun piece text => piece.fill scope = .ok text) pieces texts) :
    fillAll scope pieces = .ok (String.join texts) := by
  induction each with
  | nil => rfl
  | cons first _ ih =>
    rw [String.join_cons]
    exact Except.bind_eq_ok.mpr ⟨_, first, Except.bind_eq_ok.mpr ⟨_, ih, rfl⟩⟩

theorem fill_hole {e : Expr} {v : Json} (defined : e.value? scope = some v) :
    (Piece.hole e).fill scope = .ok v.display :=
  Except.bind_eq_ok.mpr ⟨v, value_eq_ok.mpr defined, rfl⟩

theorem fill_choose {test : Expr} {v : Json} (defined : test.value? scope = some v)
    (yes no : List Piece) :
    (Piece.choose test yes no).fill scope =
      if v.truthy then fillAll scope yes else fillAll scope no := by
  rw [Piece.fill, value_eq_ok.mpr defined]
  rfl

/-- A loop over a list puts the texts of its rounds together. -/
theorem fill_each {α : Type} {item : String} {list : Expr} {write : α → Json} {items : List α}
    {body : List Piece} (text : α → Bool → String)
    (defined : list.value? scope = some (.list (items.map write)))
    (each : ∀ a last, fillAll ((item, write a) ::
      (loopName, .object [("last", .bool last)]) :: scope) body = .ok (text a last)) :
    (Piece.each item list body).fill scope =
      .ok (String.join (items.zipIdx.map fun (a, i) => text a (i + 1 = items.length))) := by
  have hitems : list.items scope = .ok (items.map write) :=
    Except.bind_eq_ok.mpr ⟨_, value_eq_ok.mpr defined, rfl⟩
  have texts : (rounds scope item (items.map write)).mapM (fun round => fillAll round body) =
      .ok (items.zipIdx.map fun (a, i) => text a (i + 1 = items.length)) := by
    rw [rounds, List.zipIdx_map, List.map_map, Except.mapM_eq_ok, List.forall₂_map_left_iff,
      List.forall₂_map_right_iff, List.forall₂_same]
    intro round _
    simpa using each round.1 _
  exact Except.bind_eq_ok.mpr ⟨_, hitems, Except.bind_eq_ok.mpr ⟨_, texts, rfl⟩⟩

/-! ## Enumerations -/

/-- Whole lines of text. -/
def linesText (ls : List String) : String :=
  String.join (ls.map (· ++ "\n"))

/-- A constant with its comment; a semicolon stands behind the last one. -/
def EnumConstant.declaration (v : EnumConstant) (last : Bool) : String :=
  String.join [
    linesText ["        /**"], "         * ", v.description,
    linesText ["", "         */"], "        @JsonProperty(\"", v.wire,
    linesText ["\")"], "        ", v.name, if last then ";" else ",",
    linesText [""]]

/-- The case in which a constant is shown as its wire value. -/
def EnumConstant.case (v : EnumConstant) : String :=
  String.join ["            if (this == ", v.name, ") return \"", v.wire, linesText ["\";"]]

/-- Text of an enumeration: its constants, and what they are shown as. -/
def EnumEntry.text (e : EnumEntry) : String :=
  String.join [
    "    public enum ", e.className,
    linesText [" \x7b",
      "        /**",
      "         * The value does not belong to this enumeration",
      "         */",
      "        @JsonEnumDefaultValue"],
    "        UNRECOGNIZED", if e.values.isEmpty then ";" else ",",
    linesText [""],
    String.join (e.values.zipIdx.map fun (v, i) => v.declaration (i + 1 = e.values.length)),
    linesText ["", "        public String toString() \x7b"],
    String.join (e.values.map EnumConstant.case),
    linesText ["            return \"illegal enum\";",
      "        \x7d",
      "    \x7d",
      ""]]

theorem EnumConstant.fill_hole (v : EnumConstant) (scope : Scope) {key text : String}
    (member : v.toJson.get? key = some (.text text)) :
    (Piece.hole (memberOf "value" key)).fill (("value", v.toJson) :: scope) = .ok text := by
  have defined : (memberOf "value" key).value? (("value", v.toJson) :: scope) =
      some (.text text) := by
    simpa [memberOf, Expr.value?] using member
  exact Shared.fill_hole defined

/-- The mark behind a constant. -/
theorem EnumConstant.fill_ended (v : EnumConstant) (last : Bool) (scope : Scope) :
    (Piece.choose (.member (.name loopName) "last") [.text ";"] [.text ","]).fill
        (("value", v.toJson) :: (loopName, .object [("last", .bool last)]) :: scope) =
      .ok (if last then ";" else ",") := by
  have defined : (Expr.member (.name loopName) "last").value? (("value", v.toJson) ::
      (loopName, .object [("last", .bool last)]) :: scope) = some (.bool last) := by
    simp [Expr.value?, loopName, Json.get?, Table.get?, List.lookup_cons]
  rw [fill_choose defined]
  cases last <;> rfl

/-- What the template of the shared source writes for an enumeration. -/
theorem fillAll_enumPieces (e : EnumEntry) (scope : Scope) :
    fillAll (("enum", e.toJson) :: scope) TypesUnit.enumPieces = .ok e.text := by
  have constants : (Expr.values (.name "enum")).value? (("enum", e.toJson) :: scope) =
      some (.list (e.values.map EnumConstant.toJson)) := by
    simp [Expr.value?, Expr.valuesOf?, EnumEntry.toJson, Table.get?, List.lookup_cons]
  have name : (memberOf "enum" "class_name").value? (("enum", e.toJson) :: scope) =
      some (.text e.className) := by
    simp [memberOf, Expr.value?, EnumEntry.toJson, Json.get?, Table.get?]
  have comma : (Piece.choose (.values (.name "enum")) [.text ","] [.text ";"]).fill
      (("enum", e.toJson) :: scope) = .ok (if e.values.isEmpty then ";" else ",") := by
    rw [fill_choose constants]
    cases e.values <;> rfl
  have cases : (e.values.zipIdx.map fun (v, _) => v.case) = e.values.map EnumConstant.case := by
    have firsts := congrArg (List.map EnumConstant.case) (List.zipIdx_map_fst 0 e.values)
    rwa [List.map_map] at firsts
  unfold TypesUnit.enumPieces
  refine fillAll_of_forall₂ ?_
  simp only [List.forall₂_cons]
  refine ⟨rfl, fill_hole name, rfl, rfl, comma, rfl, fill_each _ constants ?_, rfl, ?_, rfl, .nil⟩
  · intro v last
    refine fillAll_of_forall₂ ?_
    simp only [List.forall₂_cons]
    exact ⟨rfl, rfl, v.fill_hole _ rfl, rfl, rfl, v.fill_hole _ rfl, rfl, rfl, v.fill_hole _ rfl,
      v.fill_ended last scope, rfl, .nil⟩
  · rw [← cases]
    refine fill_each (fun v _ => v.case) constants ?_
    intro v last
    refine fillAll_of_forall₂ ?_
    simp only [List.forall₂_cons]
    exact ⟨rfl, v.fill_hole _ rfl, rfl, v.fill_hole _ rfl, rfl, .nil⟩

/-! ## The units -/

namespace TypesUnit

theorem fillsAll_errorCase (e : ErrorEntry) (scope : Scope) :
    FillsAll (("error", e.toJson) :: scope) errorCase := by
  simp [errorCase, memberOf, Expr.value?, ErrorEntry.toJson, Json.get?, Table.get?, List.lookup_cons]

theorem fillsAll_enumPieces (e : EnumEntry) (scope : Scope) :
    FillsAll (("enum", e.toJson) :: scope) enumPieces :=
  ⟨e.text, fillAll_enumPieces e scope⟩

theorem fillsAll_errorPieces (e : ErrorEntry) (scope : Scope) :
    FillsAll (("error", e.toJson) :: scope) errorPieces := by
  have params : (memberOf "error" "err_params").value? (("error", e.toJson) :: scope) =
      some (.list (e.params.map ErrorParam.toJson)) := by
    simp [memberOf, Expr.value?, ErrorEntry.toJson, Json.get?, Table.get?, List.lookup_cons]
  have texts : ∀ key ∈ ["name", "description", "class_name"],
      (Piece.hole (memberOf "error" key)).Fills (("error", e.toJson) :: scope) := by
    simp [memberOf, Expr.value?, ErrorEntry.toJson, Json.get?, Table.get?, List.lookup_cons]
  unfold errorPieces
  simp only [fillsAll_cons, fillsAll_nil, fills_text, fills_lines, true_and, and_true]
  refine ⟨texts _ (by simp), texts _ (by simp), fills_each params ?_, texts _ (by simp),
    texts _ (by simp), texts _ (by simp), fills_each params ?_⟩
  · intro p _ last
    simp [memberOf, Expr.value?, ErrorParam.toJson, Json.get?, Table.get?]
  · intro p _ last
    simp [memberOf, Expr.value?, ErrorParam.toJson, Json.get?, Table.get?, List.lookup_cons]

theorem fillsAll_typePieces (e : TypeEntry) (scope : Scope) :
    FillsAll (("type", e.toJson) :: scope) typePieces := by
  have unchecked : (memberOf "type" "suppress_unchecked_warning").value?
      (("type", e.toJson) :: scope) = some (.bool e.isUnchecked) := by
    simp [memberOf, Expr.value?, TypeEntry.toJson, Json.get?, Table.get?, List.lookup_cons]
  have reference : (memberOf "type" "generate_reference_task_result_func").value?
      (("type", e.toJson) :: scope) = some (.bool e.isReference) := by
    simp [memberOf, Expr.value?, TypeEntry.toJson, Json.get?, Table.get?, List.lookup_cons]
  have texts : ∀ key ∈ ["name", "method_name", "method_body"],
      (Piece.hole (memberOf "type" key)).Fills (("type", e.toJson) :: scope) := by
    simp [memberOf, Expr.value?, TypeEntry.toJson, Json.get?, Table.get?, List.lookup_cons]
  unfold typePieces
  simp only [fillsAll_cons, fillsAll_nil, fills_text, fills_lines, true_and, and_true]
  refine ⟨fills_choose unchecked ?_ ?_, texts _ (by simp), texts _ (by simp), texts _ (by simp),
    fills_choose reference ?_ ?_⟩
  · simp
  · simp
  · intro _
    simp only [fillsAll_cons, fillsAll_nil, fills_text, fills_lines, true_and, and_true]
    exact ⟨texts _ (by simp), texts _ (by simp), texts _ (by simp)⟩
  · simp

/-- The shared source is filled from a scope that has its header, its package and the
declarations. -/
theorem fillsAll_template (d : Declarations) (header package : String) :
    FillsAll ([("licence", .text header), ("java_package", .text package)] ++ d.members) template := by
  have errors : (Expr.name "errors").value? ([("licence", .text header),
      ("java_package", .text package)] ++ d.members) =
        some (.list (d.errors.map ErrorEntry.toJson)) := by
    simp [Expr.value?, Declarations.members, List.lookup_cons]
  have enums : (Expr.name "enums").value? ([("licence", .text header),
      ("java_package", .text package)] ++ d.members) =
        some (.list (d.enums.map EnumEntry.toJson)) := by
    simp [Expr.value?, Declarations.members, List.lookup_cons]
  have types : (Expr.name "types").value? ([("licence", .text header),
      ("java_package", .text package)] ++ d.members) =
        some (.list (d.types.map TypeEntry.toJson)) := by
    simp [Expr.value?, Declarations.members, List.lookup_cons]
  unfold template
  simp only [fillsAll_cons, fillsAll_nil, fills_text, fills_lines, true_and, and_true]
  refine ⟨?_, ?_, fills_each errors ?_, fills_each enums ?_, fills_each errors ?_,
    fills_each types ?_⟩
  · simp [Expr.value?]
  · simp [Expr.value?, List.lookup_cons]
  · exact fun e _ last => fillsAll_errorCase e _
  · exact fun e _ last => fillsAll_enumPieces e _
  · exact fun e _ last => fillsAll_errorPieces e _
  · exact fun e _ last => fillsAll_typePieces e _

end TypesUnit

namespace ReleasesUnit

/-- A release as the template needs it. -/
structure Complete (release : Json) : Prop where
  name : (release.get? "name_uppercase").isSome = true
  version : (release.get? "version").isSome = true
  branding : (release.get? "branding").isSome = true

/-- The source that lists the releases is filled from complete releases, also if there are none. -/
theorem fillsAll_template {releases : List Json} (header package : String)
    (complete : ∀ release ∈ releases, Complete release) :
    FillsAll ([("licence", .text header), ("java_package", .text package)] ++
      [("releases", .list releases)]) template := by
  have listed : (Expr.name "releases").value? ([("licence", .text header),
      ("java_package", .text package)] ++ [("releases", .list releases)]) =
        some (.list releases) := by
    simp [Expr.value?, List.lookup_cons]
  unfold template
  simp only [fillsAll_cons, fillsAll_nil, fills_text, fills_lines, true_and, and_true]
  have items : (Expr.name "releases").value? ([("licence", .text header),
      ("java_package", .text package)] ++ [("releases", .list releases)]) =
        some (.list (releases.map id)) := by
    rw [listed, List.map_id]
  refine ⟨?_, ?_, fills_each items ?_, fills_choose listed ?_ ?_⟩
  · simp [Expr.value?]
  · simp [Expr.value?, List.lookup_cons]
  · intro release hrelease last
    have facts := complete release hrelease
    simp [memberOf, Expr.value?, facts.name, facts.version, facts.branding]
  · intro nonempty
    -- There is a release, so there is a last one.
    have filled : releases ≠ [] := by
      rintro rfl
      simp [Json.truthy] at nonempty
    have facts := complete _ (List.getLast_mem filled)
    have last : (Expr.last (.name "releases")).value? ([("licence", .text header),
        ("java_package", .text package)] ++ [("releases", .list releases)]) =
          some (releases.getLast filled) := by
      rw [Expr.value?, listed]
      simp [Json.elements?, List.getLast?_eq_some_getLast filled]
    have named : ((Expr.member (.last (.name "releases")) "name_uppercase").value?
        ([("licence", .text header), ("java_package", .text package)] ++
          [("releases", .list releases)])).isSome = true := by
      rw [Expr.value?, last]
      exact facts.name
    simp only [fillsAll_cons, fillsAll_nil, fills_text, fills_lines, fills_hole, named, and_self]
  · simp

end ReleasesUnit

end Shared

/-! ## The templates of a run -/

namespace Run

open Shared

theorem exists_fillTemplate {name : String} {scope : Scope} {pieces : List Piece}
    (found : templates.get? (Text.joined "/" (Path.ofText name).parts) = some pieces)
    (free : Table.has scope ownName = false) (filled : FillsAll scope pieces) :
    ∃ text, fillTemplate name scope = .ok text := by
  obtain ⟨text, htext⟩ := filled
  refine ⟨text, ?_⟩
  rw [fillTemplate, found]
  simp only [free]
  exact htext

theorem fillTemplate_types (c : Config) (d : Declarations) :
    ∃ text, fillTemplate "Types.java.jinja" (sharedScope c ++ d.members) = .ok text := by
  have named : Text.joined "/" (Path.ofText "Types.java.jinja").parts = "Types.java.jinja" := by
    decide +kernel
  have found : templates.get? (Text.joined "/" (Path.ofText "Types.java.jinja").parts) =
      some TypesUnit.template := by
    rw [named]
    rfl
  refine exists_fillTemplate found ?_ (TypesUnit.fillsAll_template d c.licenceHeader c.package)
  simp [Table.has, Table.get?, sharedScope, Declarations.members, ownName, List.lookup_cons]

theorem complete_of_releaseValue {r : Release} {value : Json} (h : releaseValue r = .ok value) :
    ReleasesUnit.Complete value := by
  obtain ⟨code, _, h⟩ := Except.bind_eq_ok.mp h
  rw [← Except.ok.inj h]
  exact ⟨rfl, rfl, rfl⟩

theorem fillTemplate_releases {c : Config} {schema : Schema} {scope : Scope}
    (h : releasesScope c schema = .ok scope) :
    ∃ text, fillTemplate "APIVersion.java.jinja" scope = .ok text := by
  obtain ⟨values, hvalues, h⟩ := Except.bind_eq_ok.mp h
  rw [← Except.ok.inj h]
  have complete : ∀ value ∈ values, ReleasesUnit.Complete value := by
    intro value hvalue
    obtain ⟨r, _, hr⟩ := Except.exists_of_mem_of_mapM_eq_ok hvalues hvalue
    exact complete_of_releaseValue hr
  have named : Text.joined "/" (Path.ofText "APIVersion.java.jinja").parts =
      "APIVersion.java.jinja" := by
    decide +kernel
  have found : templates.get? (Text.joined "/" (Path.ofText "APIVersion.java.jinja").parts) =
      some ReleasesUnit.template := by
    rw [named]
    rfl
  refine exists_fillTemplate found ?_
    (ReleasesUnit.fillsAll_template c.licenceHeader c.package complete)
  simp [Table.has, Table.get?, sharedScope, ownName, List.lookup_cons]

/-- Releases whose code names are texts make a scope. -/
theorem exists_releasesScope (c : Config) {schema : Schema}
    (named : ∀ r ∈ schema.releases, r.codeName.isText = true) :
    ∃ scope, releasesScope c schema = .ok scope := by
  have each : ∀ r ∈ schema.releases, ∃ value, releaseValue r = .ok value ∧ True := by
    intro r hr
    have text := named r hr
    cases hcode : r.codeName with
    | text code =>
      refine ⟨.object [("name_uppercase", .text (Naming.constantCase code)),
        ("version", .text r.version), ("branding", r.branding)], ?_, trivial⟩
      simp only [releaseValue, hcode]
      rfl
    | _ => simp [hcode, Json.isText] at text
  obtain ⟨values, hvalues, _⟩ := Except.exists_mapM_eq_ok each
  exact ⟨_, Except.bind_eq_ok.mpr ⟨values, hvalues, rfl⟩⟩

end Run
end ClientBindings
