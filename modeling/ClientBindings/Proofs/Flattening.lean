import ClientBindings.Proofs.Outcome

/-!
# Flattening — namespaces are only prefixes

A group of fields stands for its fields, whose names start with that of the group.  A class whose
fields stand outside all groups, each under its path, is generated in the same way: every source
sees the tree of a class through its leaves alone, and the path, the type, the description and the
releases are all it sees of a leaf.

* `Leaf.flattened` — a leaf outside all groups, named by its path;
* `ApiClass.flattened`, `Schema.flattened` — every tree replaced by the list of its leaves;
* `Source.RecordSource.ofClass_flattened` — the record of a class does not show its groups;
* `run_flattened` — nor does a run.

One thing else is read of a tree, namely whether there is anything in it: a class with groups but no
leaf has an empty record, and without the groups it would have none.
-/

namespace ClientBindings

/-! ## Flat trees -/

namespace Leaf

/-- Name of a leaf outside all groups: its path.  Names that cannot be joined stay apart, and no
other name can be joined to them. -/
def flatName (leaf : Leaf) : Json :=
  if leaf.isNamed then .text leaf.path else .list leaf.names

def flattened (leaf : Leaf) : Leaf :=
  ⟨[leaf.flatName], { leaf.field with name := leaf.flatName }⟩

theorem isNamed_flattened (leaf : Leaf) : leaf.flattened.isNamed = leaf.isNamed := by
  have single : leaf.flattened.isNamed = leaf.flatName.isText := by
    simp [isNamed, flattened]
  rw [single, flatName]
  cases leaf.isNamed with
  | true => rfl
  | false => rfl

theorem path_flattened {leaf : Leaf} (named : leaf.isNamed = true) :
    leaf.flattened.path = leaf.path := by
  have flat : leaf.flattened.names = [.text leaf.path] := by
    simp [flattened, flatName, named]
  rw [path, flat]
  simp [Json.display, Text.joined]

theorem memberName_flattened {leaf : Leaf} (named : leaf.isNamed = true) :
    leaf.flattened.memberName = leaf.memberName := by
  simp [memberName, path_flattened named]

end Leaf

namespace ApiClass

/-- A class whose fields stand outside all groups, each under its path. -/
def flattened (cls : ApiClass) : ApiClass :=
  { cls with contents := cls.leaves.map fun leaf => .leaf leaf.flattened.field }

theorem leaves_flattened (cls : ApiClass) : cls.flattened.leaves = cls.leaves.map Leaf.flattened := by
  have flat (leaves : List Leaf) :
      leavesOf [] (leaves.map fun leaf => .leaf leaf.flattened.field) =
        leaves.map Leaf.flattened := by
    induction leaves with
    | nil => rfl
    | cons leaf rest ih =>
      simp only [List.map_cons, leavesOf, FieldNode.leavesUnder, ih]
      rfl
  exact flat cls.leaves

theorem namedLeaves_flattened (cls : ApiClass) :
    cls.flattened.namedLeaves = cls.namedLeaves.map (List.map Leaf.flattened) := by
  have named : cls.flattened.leaves.all Leaf.isNamed = cls.leaves.all Leaf.isNamed := by
    simp [leaves_flattened, Function.comp_def, Leaf.isNamed_flattened]
  rw [namedLeaves, namedLeaves, named, leaves_flattened]
  cases cls.leaves.all Leaf.isNamed with
  | true => rfl
  | false => rfl

/-- Only a tree of groups without a field is lost when the groups go. -/
theorem isEmpty_flattened_iff {cls : ApiClass} :
    cls.flattened.isEmpty = cls.isEmpty ↔ (cls.isEmpty = false → cls.leaves ≠ []) := by
  have flat : cls.flattened.isEmpty = cls.leaves.isEmpty := by
    simp [isEmpty, flattened]
  rw [flat]
  cases empty : cls.isEmpty with
  | true =>
    have contents : cls.contents = [] := by simpa [isEmpty] using empty
    simp [leaves, contents, leavesOf]
  | false =>
    simp

/-- The leaves that `namedLeaves` hands out have texts for names. -/
theorem isNamed_of_namedLeaves {cls : ApiClass} {leaves : List Leaf}
    (h : cls.namedLeaves = .ok leaves) : ∀ leaf ∈ leaves, leaf.isNamed = true := by
  unfold namedLeaves at h
  split at h
  · next named =>
    cases h
    simpa using named
  · simp at h

end ApiClass

def Schema.flattened (schema : Schema) : Schema :=
  { schema with classes := schema.classes.map ApiClass.flattened }

/-! ## Records -/

namespace Source

theorem mapEntry_flattened (s : Settings) {leaf : Leaf} (named : leaf.isNamed = true) :
    mapEntry s leaf.flattened = mapEntry s leaf := by
  rw [mapEntry, mapEntry, Leaf.path_flattened named, Leaf.memberName_flattened named]
  rfl

theorem declaration_flattened (s : Settings) {leaf : Leaf} (named : leaf.isNamed = true) :
    declaration s leaf.flattened = declaration s leaf := by
  rw [declaration, declaration, Leaf.path_flattened named, Leaf.memberName_flattened named]
  rfl

/-! What is made of each leaf of a list, if the groups of a leaf do not show in it. -/

theorem map_flattened {α : Type} {f : Leaf → α} {leaves : List Leaf}
    (agree : ∀ leaf, leaf.isNamed = true → f leaf.flattened = f leaf)
    (named : ∀ leaf ∈ leaves, leaf.isNamed = true) :
    (leaves.map Leaf.flattened).map f = leaves.map f := by
  rw [List.map_map]
  apply List.map_congr_left
  intro leaf hleaf
  exact agree leaf (named leaf hleaf)

theorem mapM_flattened {α : Type} {f : Leaf → Emission α} {leaves : List Leaf}
    (agree : ∀ leaf, leaf.isNamed = true → f leaf.flattened = f leaf)
    (named : ∀ leaf ∈ leaves, leaf.isNamed = true) :
    (leaves.map Leaf.flattened).mapM f = leaves.mapM f := by
  induction leaves with
  | nil => rfl
  | cons leaf rest ih =>
    rw [List.forall_mem_cons] at named
    rw [List.map_cons, List.mapM_cons, List.mapM_cons, agree leaf named.1, ih named.2]

theorem layout_flattened {leaves : List Leaf} (named : ∀ leaf ∈ leaves, leaf.isNamed = true)
    (synthetic : List SyntheticMember) :
    RecordSource.layout (leaves.map Leaf.flattened) synthetic =
      RecordSource.layout leaves synthetic := by
  have same : (leaves.map Leaf.flattened).map (fun leaf => (leaf.path, leaf.field.ty)) =
      leaves.map fun leaf => (leaf.path, leaf.field.ty) :=
    map_flattened (fun leaf named => congrArg (·, leaf.field.ty) (Leaf.path_flattened named)) named
  rw [RecordSource.layout, RecordSource.layout, same]

/-- The class of events looks for its kind among the paths. -/
theorem any_path_flattened {leaves : List Leaf} (named : ∀ leaf ∈ leaves, leaf.isNamed = true)
    (path : String) :
    (leaves.map Leaf.flattened).any (fun leaf => leaf.path = path) =
      leaves.any fun leaf => leaf.path = path := by
  calc (leaves.map Leaf.flattened).any (fun leaf => leaf.path = path)
      = ((leaves.map Leaf.flattened).map Leaf.path).any fun other => other = path := by
        simp [Function.comp_def]
    _ = (leaves.map Leaf.path).any fun other => other = path := by
        rw [map_flattened (fun _ => Leaf.path_flattened) named]
    _ = leaves.any fun leaf => leaf.path = path := by
        simp [Function.comp_def]

theorem syntheticMembers_flattened (cls : ApiClass) :
    syntheticMembers cls.flattened = syntheticMembers cls := by
  rw [syntheticMembers, syntheticMembers, ApiClass.namedLeaves_flattened]
  cases hleaves : cls.namedLeaves with
  | error fault => rfl
  | ok leaves =>
    have named := ApiClass.isNamed_of_namedLeaves hleaves
    have kind := any_path_flattened named eventKindField
    simp only [Except.map, Emission.liftM_ok, pure_bind, kind]
    rfl

namespace RecordSource

theorem ofClass_flattened (s : Settings) (cls : ApiClass) (synthetic : List SyntheticMember) :
    ofClass s cls.flattened synthetic = ofClass s cls synthetic := by
  rw [ofClass, ofClass, ApiClass.namedLeaves_flattened]
  cases hleaves : cls.namedLeaves with
  | error fault => rfl
  | ok leaves =>
    have named := ApiClass.isNamed_of_namedLeaves hleaves
    have layout := layout_flattened named synthetic
    have mapped := mapM_flattened (fun _ => mapEntry_flattened s) named
    have declared := mapM_flattened (fun _ => declaration_flattened s) named
    have printed := map_flattened (fun _ => Leaf.memberName_flattened) named
    simp only [Except.map, Emission.liftM_ok, pure_bind, layout, mapped, declared, printed,
      List.length_map]
    rfl

end RecordSource

/-! ## Classes -/

namespace ClassSource

theorem classRecord_flattened (s : Settings) {cls : ApiClass}
    (filled : cls.isEmpty = false → cls.leaves ≠ []) :
    classRecord s cls.flattened = classRecord s cls := by
  rw [classRecord, classRecord, ApiClass.isEmpty_flattened_iff.mpr filled, syntheticMembers_flattened]
  simp only [RecordSource.ofClass_flattened]

theorem ofClass_flattened (s : Settings) {cls : ApiClass}
    (filled : cls.isEmpty = false → cls.leaves ≠ []) :
    ofClass s cls.flattened = ofClass s cls := by
  rw [ofClass, ofClass, classRecord_flattened s filled]
  -- The comment and the methods do not look at the fields, and the rest of the class is the same.
  rfl

end ClassSource
end Source

theorem objectKinds_flattened {classes : List ApiClass}
    (filled : ∀ cls ∈ classes, cls.isEmpty = false → cls.leaves ≠ []) :
    objectKinds (classes.map ApiClass.flattened) = objectKinds classes := by
  have kept : (classes.map ApiClass.flattened).filter (fun cls => !cls.isEmpty) =
      (classes.filter fun cls => !cls.isEmpty).map ApiClass.flattened := by
    rw [List.filter_map]
    apply congrArg
    apply List.filter_congr
    intro cls hcls
    exact congrArg (!·) (ApiClass.isEmpty_flattened_iff.mpr (filled cls hcls))
  rw [objectKinds, objectKinds, kept, List.map_map]
  rfl

/-! ## Runs -/

namespace Run

theorem classFile_flattened (c : Config) (s : Settings) {cls : ApiClass}
    (filled : cls.isEmpty = false → cls.leaves ≠ []) :
    classFile c s cls.flattened = classFile c s cls := by
  rw [classFile, classFile, Source.ClassSource.ofClass_flattened s filled]

theorem forM_classFile_flattened (c : Config) (s : Settings) {classes : List ApiClass}
    (filled : ∀ cls ∈ classes, cls.isEmpty = false → cls.leaves ≠ []) :
    (classes.map ApiClass.flattened).forM (classFile c s) = classes.forM (classFile c s) := by
  induction classes with
  | nil => rfl
  | cons cls rest ih =>
    rw [List.forall_mem_cons] at filled
    rw [List.map_cons, List.forM, List.forM, classFile_flattened c s filled.1,
      ih filled.2]

theorem classes_flattened (c : Config) {schema : Schema}
    (filled : ∀ cls ∈ schema.classes, cls.isEmpty = false → cls.leaves ≠ []) :
    classes c schema.flattened = classes c schema := by
  have kinds := objectKinds_flattened filled
  have files := forM_classFile_flattened c (c.settings schema) filled
  have count : schema.flattened.classes.length = schema.classes.length := by
    simp [Schema.flattened]
  rw [classes, classes, count]
  simp only [Schema.flattened, kinds]
  rw [← files]
  rfl

theorem shared_flattened (c : Config) (schema : Schema) :
    shared c schema.flattened = shared c schema :=
  rfl

end Run

/-- Namespaces are only prefixes: a run over a schema without them writes the same files with the
same texts, hands back the same snapshot, or fails in the same way and leaves the same files. -/
theorem run_flattened (c : Config) {schema : Schema}
    (filled : ∀ cls ∈ schema.classes, cls.isEmpty = false → cls.leaves ≠ []) :
    run c schema.flattened = run c schema := by
  have same : Run.all c schema.flattened = Run.all c schema := by
    rw [Run.all, Run.all, Run.classes_flattened c filled, Run.shared_flattened]
  unfold run
  rw [same]

/-! ## A document with groups -/

namespace Sample

/-- A group of fields. -/
def group (name : String) (fields : List Json) : Json :=
  .object [("namespace", .text name), ("fields", .list fields)]

/-- Groups inside a group, and a group that holds the kind of the objects of events. -/
def grouped : Json :=
  .object [("classes", .list [
    .object [
      ("name", .text "vm"),
      ("fields", .list [
        typed "uuid" "string",
        group "guest" [
          group "os" [typed "version" "map<string, string>"],
          typed "self" "ref<vm>",
          group "empty" []]])],
    .object [
      ("name", .text "event"),
      ("fields", .list [group "object" [typed "class" "string"]])]])]

/-- Whether the classes keep their records without groups, and what their leaves are called. -/
def HasGroups (schema : Schema) : Prop :=
  (∀ cls ∈ schema.classes, cls.isEmpty = false → cls.leaves ≠ []) ∧
  (schema.classes.map fun cls => cls.contents.length) = [2, 1] ∧
  (schema.flattened.classes.map fun cls => cls.leaves.map fun leaf => leaf.names) =
    [[[.text "uuid"], [.text "guest_os_version"], [.text "guest_self"]], [[.text "object_class"]]]

instance (schema : Schema) : Decidable (HasGroups schema) := by
  unfold HasGroups
  infer_instance

set_option maxRecDepth 20000 in
theorem hasGroups_grouped :
    ((prepared? config grouped).any fun (schema, _) => HasGroups schema) = true := by
  decide +kernel

end Sample

theorem run_flattened_grouped :
    ∃ schema, Schema.ofDocument Sample.grouped = .ok schema ∧ Sample.HasGroups schema ∧
      run Sample.config schema.flattened = run Sample.config schema := by
  rcases (Option.any_eq_true _ _).mp Sample.hasGroups_grouped with ⟨⟨schema, disk⟩, prepared, groups⟩
  have groups : Sample.HasGroups schema := of_decide_eq_true groups
  exact ⟨schema, (Sample.of_prepared?_eq_some prepared).1, groups,
    run_flattened Sample.config groups.1⟩

end ClientBindings
