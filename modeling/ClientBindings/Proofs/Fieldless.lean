import ClientBindings.Proofs.Kinds
import ClientBindings.Proofs.Members

/-!
# Fieldless — classes without a field

A class without fields has nothing to refer to: its source declares no reference and no record, no
layout is registered for it, and it is no kind of object.  All three are decided by whether there is
anything in the class, and a group without fields is something.  So a class of groups that hold no
field, however deep they go, is treated as if it had fields, and has a record without members.

* `FieldNode.isHollow`, `ApiClass.isHollow` — trees and classes with groups but no field;
* `leavesOf_eq_nil_iff` — the leaves of a tree do not show that it is hollow;
* `TreatedAsFilled`, `TreatedAsFieldless` — what a class with fields gets, and one without;
* `followsLeaves_iff` — the leaves of a class decide which of the two, unless it is hollow.
-/

namespace ClientBindings

/-! ## Hollow trees -/

mutual

/-- Whether there is no field in a node, however deep its groups go. -/
def FieldNode.isHollow : FieldNode → Bool
  | .leaf _ => false
  | .group _ contents => areHollow contents
termination_by structural node => node

def areHollow : List FieldNode → Bool
  | [] => true
  | node :: rest => node.isHollow && areHollow rest
termination_by structural nodes => nodes

end

mutual

theorem FieldNode.leavesUnder_eq_nil_iff (groups : List Json) (node : FieldNode) :
    node.leavesUnder groups = [] ↔ node.isHollow = true := by
  match node with
  | .leaf field => simp [FieldNode.leavesUnder, FieldNode.isHollow]
  | .group name contents =>
    simpa only [FieldNode.leavesUnder, FieldNode.isHollow] using
      leavesOf_eq_nil_iff (groups ++ [name]) contents
termination_by structural node

/-- A tree has no leaves exactly if it is hollow, whatever groups it is under. -/
theorem leavesOf_eq_nil_iff (groups : List Json) (nodes : List FieldNode) :
    leavesOf groups nodes = [] ↔ areHollow nodes = true := by
  match nodes with
  | [] => simp [leavesOf, areHollow]
  | node :: rest =>
    -- No leaf comes of a list exactly if none comes of its first node, and none of the others.
    have first := FieldNode.leavesUnder_eq_nil_iff groups node
    have others := leavesOf_eq_nil_iff groups rest
    simp only [leavesOf, areHollow, List.append_eq_nil_iff, Bool.and_eq_true, first, others]
termination_by structural nodes

end

namespace ApiClass

variable {cls : ApiClass}

/-- Whether there is something in a class, but no field. -/
def isHollow (cls : ApiClass) : Bool :=
  !cls.isEmpty && areHollow cls.contents

theorem leaves_eq_nil_iff : cls.leaves = [] ↔ areHollow cls.contents = true :=
  leavesOf_eq_nil_iff [] cls.contents

theorem isHollow_iff : cls.isHollow = true ↔ cls.isEmpty = false ∧ cls.leaves = [] := by
  simp [isHollow, leaves_eq_nil_iff]

/-- Only a hollow class has something in it and no leaves. -/
theorem isEmpty_iff_of_solid (solid : cls.isHollow = false) :
    cls.isEmpty = true ↔ cls.leaves = [] := by
  constructor
  · exact leaves_of_isEmpty
  · intro none
    by_contra filled
    have hollow : cls.isHollow = true := isHollow_iff.mpr ⟨by simpa using filled, none⟩
    simp [solid] at hollow

end ApiClass

/-! ## Treatment of a class -/

namespace Source

namespace ClassSource

/-- What stands between the head of a source and its methods. -/
def body (source : ClassSource) : List String :=
  objectLines source.name source.record

/-- A source that declares a reference, equality by reference, and a record with some members. -/
def Wraps (source : ClassSource) (members : List (String × String)) : Prop :=
  ∃ record : RecordSource, record.Lists members ∧
    source.body = referenceLines source.name ++ equalityLines source.name ++ record.lines

/-- A source whose objects answer the question for their reference with none. -/
def Unreferable (source : ClassSource) : Prop :=
  source.body = unreferencedLines

end ClassSource

variable {s : Settings} {before after : List ApiClass} {cls : ApiClass}

/-- What a class among others gets that has something to refer to: a source that wraps a reference,
with the members of its record, a layout that is registered under its name, and a place among the
kinds of objects. -/
structure TreatedAsFilled (s : Settings) (before : List ApiClass) (cls : ApiClass)
    (after : List ApiClass) : Prop where
  source : ∀ (r : Registry) (source : ClassSource),
    (r.settle (ClassSource.ofClass s cls)).result = .ok source → source.Wraps cls.members
  layout : ∀ (r : Registry) (source : ClassSource) (name : String),
    (r.settle (ClassSource.ofClass s cls)).result = .ok source → cls.name = .text name →
      (r.settle (ClassSource.ofClass s cls)).registry.records.get? name = some cls.recordLayout
  kind : objectKinds (before ++ cls :: after) =
    .enum objectKindsName (kindsOf before ++ ⟨cls.name, cls.description⟩ :: kindsOf after)

/-- What a class among others gets that has nothing to refer to: a source that says so, and neither
a layout nor a place among the kinds of objects. -/
structure TreatedAsFieldless (s : Settings) (before : List ApiClass) (cls : ApiClass)
    (after : List ApiClass) : Prop where
  source : ∀ (r : Registry) (source : ClassSource),
    (r.settle (ClassSource.ofClass s cls)).result = .ok source → source.Unreferable
  layout : ∀ (r : Registry) (source : ClassSource) (name : String),
    (r.settle (ClassSource.ofClass s cls)).result = .ok source →
      (r.settle (ClassSource.ofClass s cls)).registry.records.get? name = r.records.get? name
  kind : objectKinds (before ++ cls :: after) =
    .enum objectKindsName (kindsOf before ++ kindsOf after)

/-- The fields of a class decide how it is treated. -/
def FollowsLeaves (s : Settings) (before : List ApiClass) (cls : ApiClass)
    (after : List ApiClass) : Prop :=
  (cls.leaves ≠ [] → TreatedAsFilled s before cls after) ∧
    (cls.leaves = [] → TreatedAsFieldless s before cls after)

theorem record_of_isEmpty {source : ClassSource} (empty : cls.isEmpty = true)
    (made : (ClassSource.ofClass s cls).result = .ok source) : source.record = none := by
  rcases exists_classParts made with ⟨parts⟩
  rcases classRecord_eq_ok parts.record with ⟨_, none⟩ | ⟨filled, _⟩
  · exact none
  · simp [empty] at filled

theorem wraps_of_filled {source : ClassSource} (filled : cls.isEmpty = false)
    (made : (ClassSource.ofClass s cls).result = .ok source) : source.Wraps cls.members := by
  rcases record_of_ofClass filled made with ⟨record, inSource, written⟩
  refine ⟨record, RecordSource.lists_of_ofClass written, ?_⟩
  simp only [ClassSource.body, inSource, ClassSource.objectLines]

/-- A completed source leaves behind the registry that its registrations make. -/
theorem get?_records_settle {r : Registry} {source : ClassSource}
    (settled : (r.settle (ClassSource.ofClass s cls)).result = .ok source) (name : String) :
    (r.settle (ClassSource.ofClass s cls)).registry.records.get? name =
      if !cls.isEmpty && cls.name = .text name then some cls.recordLayout
      else r.records.get? name := by
  have made := Registry.settle_eq_ok settled
  rw [made.2]
  exact Run.get?_records_of_class made.1 r name

theorem treatedAsFilled_of_filled (filled : cls.isEmpty = false) :
    TreatedAsFilled s before cls after where
  source _ _ settled := wraps_of_filled filled (Registry.settle_eq_ok settled).1
  layout _ _ name settled named := by
    have found := get?_records_settle settled name
    simpa [filled, named] using found
  kind := by
    simp [objectKinds, kindsOf, recordClasses, filled]

theorem treatedAsFieldless_of_empty (empty : cls.isEmpty = true) :
    TreatedAsFieldless s before cls after where
  source _ _ settled := by
    have none := record_of_isEmpty empty (Registry.settle_eq_ok settled).1
    simp only [ClassSource.Unreferable, ClassSource.body, none, ClassSource.objectLines]
  layout _ _ name settled := by
    have found := get?_records_settle settled name
    simpa [empty] using found
  kind := by
    simp [objectKinds, kindsOf, recordClasses, empty]

/-- The kinds of objects tell the two treatments apart. -/
theorem TreatedAsFilled.not_fieldless (filled : TreatedAsFilled s before cls after) :
    ¬TreatedAsFieldless s before cls after := by
  intro fieldless
  -- With the class among them, there is one kind more.
  have same := (Ty.enum.inj (filled.kind.symm.trans fieldless.kind)).2
  have lengths := congrArg List.length same
  simp at lengths

/-- The fields of a class decide how it is treated, unless it has groups and no field: such a class
gets everything that a class with fields gets. -/
theorem followsLeaves_iff (s : Settings) (before : List ApiClass) (cls : ApiClass)
    (after : List ApiClass) : FollowsLeaves s before cls after ↔ cls.isHollow = false := by
  constructor
  · -- A hollow class gets what a class with fields gets, and by its leaves it should not.
    intro follows
    by_contra hollow
    have groups : cls.isEmpty = false ∧ cls.leaves = [] :=
      ApiClass.isHollow_iff.mp (by simpa using hollow)
    exact (treatedAsFilled_of_filled groups.1).not_fieldless (follows.2 groups.2)
  · intro solid
    have decides := ApiClass.isEmpty_iff_of_solid solid
    constructor
    · intro some
      have filled : cls.isEmpty = false := by
        simpa using fun empty => some (decides.mp empty)
      exact treatedAsFilled_of_filled filled
    · intro none
      exact treatedAsFieldless_of_empty (decides.mpr none)

end Source

/-! ## A class with a group and no field -/

namespace Sample

def hollow : Json :=
  .object [
    ("classes", .list [
      .object [
        ("name", .text "vm"),
        ("fields", .list [.object [("namespace", .text "guest"), ("fields", .list [])]])]])]

set_option maxRecDepth 20000 in
theorem isHollow_hollow :
    ((firstSource? hollow).any fun (_, cls, _) => cls.isHollow) = true := by
  decide +kernel

end Sample

namespace Source

/-- A class without a field has a source that declares a reference and a record. -/
theorem not_followsLeaves_of_hollow :
    ∃ schema before cls after source, Schema.ofDocument Sample.hollow = .ok schema ∧
      schema.classes = before ++ cls :: after ∧ cls.leaves = [] ∧
      (ClassSource.ofClass (Sample.config.settings schema) cls).result = .ok source ∧
      source.Wraps cls.members ∧ ¬FollowsLeaves (Sample.config.settings schema) before cls after := by
  rcases (Option.any_eq_true _ _).mp Sample.isHollow_hollow with ⟨⟨schema, cls, source⟩, first, hollow⟩
  rcases Sample.of_firstSource?_eq_some first with ⟨parsed, hcls, made⟩
  rcases List.append_of_mem hcls with ⟨before, after, split⟩
  rcases ApiClass.isHollow_iff.mp hollow with ⟨filled, none⟩
  refine ⟨schema, before, cls, after, source, parsed, split, none, made,
    wraps_of_filled filled made, ?_⟩
  intro follows
  exact (treatedAsFilled_of_filled filled).not_fieldless (follows.2 none)

end Source
end ClientBindings
