import ClientBindings.Proofs.Resolution
import ClientBindings.Proofs.Snapshot
import ClientBindings.Shared.Entry
import Mathlib.Data.List.Sort

/-!
# Entries — the functions of the shared source

Functions are added type by type; a type whose function is there already adds nothing.  So each
function has a name of its own, each is that of some type, and each type has one.

A snapshot that knows the parts of its types knows everything that a function calls: the items of a
collection, the members of a record, and the kinds of objects together with their records.

* `sortedBy_eq_insertionSort` — sorting by name is insertion sort;
* `Serves` — functions that serve types; `serves_of_typeEntries` — so do those of a snapshot;
* `exists_decoded_of_call` — whatever a function calls is the function of a type;
* `Decoder.exists_line_of_call` — calls stand in the body;
* `typeEntries_closed` — the shared source defines each function that it calls, once.
-/

namespace ClientBindings
namespace Shared

/-! ## Sorting -/

section Sorting

variable {α : Type} {name : α → String}

theorem insertBy_eq_orderedInsert (item : α) (items : List α) :
    insertBy name item items = items.orderedInsert (fun a b => name a ≤ name b) item := by
  induction items with
  | nil => rfl
  | cons other rest ih =>
    by_cases before : name other < name item
    · have notAfter : ¬name item ≤ name other := fun after => after before
      simp [insertBy, before, notAfter, ih]
    · have after : name item ≤ name other := before
      simp [insertBy, before, after]

theorem sortedBy_eq_insertionSort (items : List α) :
    sortedBy name items = items.insertionSort fun a b => name a ≤ name b := by
  induction items with
  | nil => rfl
  | cons item rest ih =>
    have head : sortedBy name (item :: rest) = insertBy name item (sortedBy name rest) := rfl
    rw [head, insertBy_eq_orderedInsert, ih, List.insertionSort_cons]

theorem mem_sortedBy {item : α} {items : List α} : item ∈ sortedBy name items ↔ item ∈ items := by
  rw [sortedBy_eq_insertionSort, List.mem_insertionSort]

theorem pairwise_sortedBy (items : List α) :
    (sortedBy name items).Pairwise fun a b => name a ≤ name b := by
  have total : Std.Total fun a b : α => name a ≤ name b := ⟨fun a b => String.le_total _ _⟩
  have trans : IsTrans α fun a b => name a ≤ name b := ⟨fun a b c => String.le_trans⟩
  rw [sortedBy_eq_insertionSort]
  exact List.pairwise_insertionSort _ items

/-- Sorting distinct names puts them in strict order. -/
theorem pairwise_names_sortedBy {items : List α} (distinct : (items.map name).Nodup) :
    ((sortedBy name items).map name).Pairwise (· < ·) := by
  have same : (sortedBy name items).Perm items := by
    rw [sortedBy_eq_insertionSort]
    exact List.perm_insertionSort _ _
  have apart : ((sortedBy name items).map name).Nodup := (same.map name).nodup_iff.mpr distinct
  have ordered : ((sortedBy name items).map name).Pairwise (· ≤ ·) :=
    List.pairwise_map.mpr (pairwise_sortedBy items)
  -- Names that are in order and apart are in strict order.
  refine (ordered.and apart).imp ?_
  intro s t h
  by_cases before : s < t
  · exact before
  · exact absurd (String.le_antisymm h.1 before) h.2

end Sorting

/-- Errors that are all named by texts are sorted by them. -/
theorem sortedErrors_of_texts {errors : List ErrorDef}
    (named : ∀ e ∈ errors, e.name.isText = true) :
    sortedErrors errors = .ok (sortedBy (fun e => e.name.display) errors) := by
  have all : errors.all (fun e => e.name.isText) = true := List.all_eq_true.mpr named
  rw [sortedErrors, if_pos all]

/-! ## Adding functions -/

theorem typeEntry_eq_ok {snapshot : Snapshot} {methodName : String} {ty : Ty} {e : TypeEntry}
    (h : typeEntry snapshot methodName ty = .ok e) :
    e.methodName = methodName ∧ typeName ty = .ok e.name ∧
      Decoder.ofType snapshot ty = .ok e.decoder := by
  rcases Except.bind_eq_ok.mp h with ⟨name, hname, h⟩
  rcases Except.bind_eq_ok.mp h with ⟨decoder, hdecoder, h⟩
  rw [← Except.ok.inj h]
  exact ⟨rfl, hname, hdecoder⟩

/-- Functions that serve types: no two have a name, each is that of a type, and each type has
one. -/
structure Serves (snapshot : Snapshot) (types : List Ty) (entries : List TypeEntry) : Prop where
  distinct : (entries.map TypeEntry.methodName).Nodup
  origin : ∀ e ∈ entries, ∃ ty ∈ types, decoderName ty = .ok e.methodName ∧
    typeName ty = .ok e.name ∧ Decoder.ofType snapshot ty = .ok e.decoder
  served : ∀ ty ∈ types, ∃ e ∈ entries, decoderName ty = .ok e.methodName

section Serving

variable {snapshot : Snapshot} {types : List Ty} {entries entries' : List TypeEntry}

theorem serves_of_addType (h : Serves snapshot types entries) {ty : Ty}
    (added : addType snapshot entries ty = .ok entries') :
    Serves snapshot (types ++ [ty]) entries' := by
  rcases Except.bind_eq_ok.mp added with ⟨methodName, hname, added⟩
  by_cases there : (entries.any fun e => e.methodName = methodName) = true
  · -- The name is taken: the function that has it serves the type as well.
    rw [if_pos there] at added
    rw [← Except.ok.inj added]
    rcases List.any_eq_true.mp there with ⟨e, he, same⟩
    refine ⟨h.distinct, ?_, ?_⟩
    · intro e he
      rcases h.origin e he with ⟨other, hother, facts⟩
      exact ⟨other, List.mem_append_left _ hother, facts⟩
    · intro other hother
      rcases List.mem_append.mp hother with hother | hother
      · exact h.served other hother
      · rw [List.mem_singleton.mp hother, hname]
        exact ⟨e, he, by rw [of_decide_eq_true same]⟩
  · -- The name is free: the new function comes last, and serves the type alone so far.
    rw [if_neg there] at added
    rcases Except.bind_eq_ok.mp added with ⟨e, he, added⟩
    rw [← Except.ok.inj added]
    rcases typeEntry_eq_ok he with ⟨rfl, hfacts⟩
    refine ⟨?_, ?_, ?_⟩
    · rw [List.map_append, List.map_singleton]
      refine List.nodup_append.mpr ⟨h.distinct, List.nodup_singleton _, ?_⟩
      intro taken htaken new hnew same
      rcases List.mem_map.mp htaken with ⟨old, hold, rfl⟩
      refine there (List.any_eq_true.mpr ⟨old, hold, ?_⟩)
      exact decide_eq_true (same.trans (List.mem_singleton.mp hnew))
    · intro old hold
      rcases List.mem_append.mp hold with hold | hold
      · rcases h.origin old hold with ⟨other, hother, facts⟩
        exact ⟨other, List.mem_append_left _ hother, facts⟩
      · rw [List.mem_singleton.mp hold]
        exact ⟨ty, List.mem_append_right _ List.mem_cons_self, hname, hfacts⟩
    · intro other hother
      rcases List.mem_append.mp hother with hother | hother
      · rcases h.served other hother with ⟨old, hold, facts⟩
        exact ⟨old, List.mem_append_left _ hold, facts⟩
      · rw [List.mem_singleton.mp hother]
        exact ⟨e, List.mem_append_right _ List.mem_cons_self, hname⟩

theorem serves_of_foldlM {seen : List Ty} (h : Serves snapshot seen entries)
    (added : types.foldlM (addType snapshot) entries = .ok entries') :
    Serves snapshot (seen ++ types) entries' := by
  induction types generalizing seen entries with
  | nil =>
    rw [← Except.ok.inj added, List.append_nil]
    exact h
  | cons ty rest ih =>
    -- The first type joins the ones that are served already.
    rw [List.foldlM_cons] at added
    rcases Except.bind_eq_ok.mp added with ⟨next, hnext, later⟩
    have whole := ih (serves_of_addType h hnext) later
    rw [List.append_assoc] at whole
    exact whole

theorem serves_nil : Serves snapshot [] [] :=
  ⟨List.nodup_nil, by simp, by simp⟩

/-- The functions of a snapshot serve the types that need one, in strict order of their names. -/
theorem serves_of_typeEntries (h : typeEntries snapshot = .ok entries) :
    ∃ types, decodedTypes snapshot = .ok types ∧ Serves snapshot types entries ∧
      (entries.map TypeEntry.methodName).Pairwise (· < ·) := by
  rcases Except.bind_eq_ok.mp h with ⟨types, htypes, h⟩
  rcases Except.bind_eq_ok.mp h with ⟨added, hadded, h⟩
  have serves := serves_of_foldlM serves_nil hadded
  have ordered := pairwise_names_sortedBy serves.distinct
  rw [← Except.ok.inj h]
  refine ⟨types, htypes, ⟨?_, ?_, ?_⟩, ordered⟩
  · refine List.Pairwise.imp ?_ ordered
    intro s t before same
    exact String.lt_irrefl t (same ▸ before)
  · intro e he
    exact serves.origin e (mem_sortedBy.mp he)
  · intro ty hty
    rcases serves.served ty hty with ⟨e, he, hname⟩
    exact ⟨e, mem_sortedBy.mpr he, hname⟩

end Serving

/-! ## Calls -/

theorem decoderName_enum (name : String) (values : List EnumValue) :
    decoderName (.enum name values) = .ok ("to" ++ Naming.classCase name) :=
  rfl

namespace Dispatch

variable {snapshot : Snapshot} {d : Dispatch}

/-- The kind of an object is decoded by a function of the enumeration of kinds, whatever the
snapshot says about its values. -/
theorem kindDecoder_of_ofSnapshot (h : ofSnapshot snapshot = .ok d) (values : List EnumValue) :
    decoderName (.enum objectKindsName values) = .ok d.kindDecoder := by
  rcases Except.bind_eq_ok.mp h with ⟨cases, _, h⟩
  rcases Except.bind_eq_ok.mp h with ⟨kindDecoder, hdecoder, h⟩
  rw [← Except.ok.inj h]
  exact hdecoder

theorem kindDecoder_eq (h : ofSnapshot snapshot = .ok d) : d.kindDecoder = "toXenAPIObjects" := by
  have spelled : "to" ++ Naming.classCase objectKindsName = "toXenAPIObjects" := by decide +kernel
  have named := kindDecoder_of_ofSnapshot h []
  rw [decoderName_enum, spelled] at named
  exact (Except.ok.inj named).symm

/-- Functions that a switch calls stand in its lines, in front of their arguments. -/
theorem exists_line_of_call {name : String}
    (h : name ∈ d.kindDecoder :: d.cases.map DispatchCase.decoder) :
    ∃ line ∈ d.lines, ∃ before after, line = before ++ name ++ ("(" ++ after) := by
  rcases List.mem_cons.mp h with rfl | h
  · have split : "(record." = "(" ++ "record." := by decide
    refine ⟨"        switch (" ++ d.kindDecoder ++ "(record." ++ d.kindMember ++ ")) \x7b", ?_,
      "        switch (", "record." ++ d.kindMember ++ ")) \x7b", ?_⟩
    · exact List.mem_append_left _ (List.mem_append_left _ (by simp))
    · rw [split]
      simp only [String.append_assoc]
  · rcases List.mem_map.mp h with ⟨c, hc, rfl⟩
    have split : "(a); break;" = "(" ++ "a); break;" := by decide
    refine ⟨c.line, ?_,
      "            case " ++ c.label ++ ": record." ++ Source.snapshotField ++ " = ", "a); break;",
      ?_⟩
    · have inCases : c.line ∈ d.cases.map DispatchCase.line := List.mem_map_of_mem hc
      unfold lines
      exact List.mem_append_left _ (List.mem_append_right _ inCases)
    · unfold DispatchCase.line
      rw [split]

theorem decoder_of_mem_cases (h : ofSnapshot snapshot = .ok d) {c : DispatchCase}
    (hc : c ∈ d.cases) : decoderName (.record c.kind) = .ok c.decoder := by
  rcases Except.bind_eq_ok.mp h with ⟨cases, hcases, h⟩
  rcases Except.bind_eq_ok.mp h with ⟨kindDecoder, _, h⟩
  rw [← Except.ok.inj h] at hc
  rcases Except.exists_of_mem_of_mapM_eq_ok hcases hc with ⟨kind, _, hkind⟩
  unfold caseOf at hkind
  split at hkind
  · split at hkind
    · rcases Except.map_eq_ok.mp hkind with ⟨decoder, hdecoder, rfl⟩
      exact hdecoder
    · simp at hkind
  · simp at hkind

end Dispatch

namespace Decoder

variable {snapshot : Snapshot}

theorem recordLayout_eq_ok {cls : String} {layout : List (String × Ty)}
    (h : recordLayout snapshot cls = .ok layout) : snapshot.records.get? cls = some layout := by
  unfold recordLayout at h
  split at h
  · next registered => rw [registered, Except.ok.inj h]
  · simp at h

/-- What the decoder of a record is made of: that of an event also has a switch. -/
theorem ofRecord_eq_ok {cls : String} {d : Decoder} (h : ofRecord snapshot cls = .ok d) :
    ∃ layout assignments dispatch, snapshot.records.get? cls = some layout ∧
      layout.mapM assignment = .ok assignments ∧
      d = .record (Naming.classCase cls) assignments dispatch ∧
      ((Source.isEvent cls = false ∧ dispatch = none) ∨ Source.isEvent cls = true ∧
        ∃ switch, Dispatch.ofSnapshot snapshot = .ok switch ∧ dispatch = some switch) := by
  rcases Except.bind_eq_ok.mp h with ⟨layout, hlayout, h⟩
  rcases Except.bind_eq_ok.mp h with ⟨assignments, hassignments, h⟩
  refine ⟨layout, assignments, ?_⟩
  cases hevent : Source.isEvent cls with
  | false =>
    simp only [hevent, Bool.false_eq_true, if_false] at h
    exact ⟨none, recordLayout_eq_ok hlayout, hassignments, (Except.ok.inj h).symm, Or.inl ⟨rfl, rfl⟩⟩
  | true =>
    simp only [hevent, if_true] at h
    rcases Except.bind_eq_ok.mp h with ⟨dispatch, hdispatch, h⟩
    rcases Except.map_eq_ok.mp hdispatch with ⟨switch, hswitch, rfl⟩
    exact ⟨some switch, recordLayout_eq_ok hlayout, hassignments, (Except.ok.inj h).symm,
      Or.inr ⟨rfl, switch, hswitch, rfl⟩⟩

theorem assignment_eq_ok {member : String × Ty} {a : Assignment}
    (h : assignment member = .ok a) :
    a.member = Naming.camelCase member.1 ∧ a.wireKey = member.1 ∧
      decoderName member.2 = .ok a.decoder := by
  rcases Except.bind_eq_ok.mp h with ⟨decoder, hdecoder, h⟩
  rw [← Except.ok.inj h]
  exact ⟨rfl, rfl, hdecoder⟩

/-- The decoder of a record comes from the record under the options of a type. -/
theorem ofType_eq_record {ty : Ty} {name : String} {assignments : List Assignment}
    {dispatch : Option Dispatch} (h : ofType snapshot ty = .ok (.record name assignments dispatch)) :
    ∃ cls, ofRecord snapshot cls = .ok (.record name assignments dispatch) := by
  induction ty with
  | primitive kind =>
    unfold ofType at h
    split at h <;> simp at h
  | enum enumName values => simp [ofType] at h
  | ref cls => simp [ofType] at h
  | set item =>
    rcases Except.bind_eq_ok.mp h with ⟨_, _, h⟩
    rcases Except.bind_eq_ok.mp h with ⟨_, _, h⟩
    simp [pure, Except.pure] at h
  | map key value =>
    rcases Except.bind_eq_ok.mp h with ⟨_, _, h⟩
    rcases Except.bind_eq_ok.mp h with ⟨_, _, h⟩
    rcases Except.bind_eq_ok.mp h with ⟨_, _, h⟩
    rcases Except.bind_eq_ok.mp h with ⟨_, _, h⟩
    simp [pure, Except.pure] at h
  | record cls => exact ⟨cls, h⟩
  | option inner ih => exact ih h

end Decoder

section Calls

variable {snapshot : Snapshot} {types : List Ty}

theorem subset_decodedTypes (h : decodedTypes snapshot = .ok types) : snapshot.types ⊆ types := by
  unfold decodedTypes at h
  split at h
  · rcases Except.bind_eq_ok.mp h with ⟨d, _, h⟩
    rw [← Except.ok.inj h]
    exact List.subset_append_left _ _
  · rw [← Except.ok.inj h]
    exact fun _ hty => hty

/-- A type that needs a function is in the snapshot, or is the record of some kind of object. -/
theorem mem_or_record_of_mem_decodedTypes (h : decodedTypes snapshot = .ok types) {ty : Ty}
    (hty : ty ∈ types) : ty ∈ snapshot.types ∨ ∃ cls, ty = .record cls := by
  unfold decodedTypes at h
  split at h
  · rcases Except.bind_eq_ok.mp h with ⟨d, _, h⟩
    rw [← Except.ok.inj h] at hty
    rcases List.mem_append.mp hty with hty | hty
    · exact Or.inl hty
    · rcases List.mem_map.mp hty with ⟨c, _, rfl⟩
      exact Or.inr ⟨_, rfl⟩
  · rw [← Except.ok.inj h] at hty
    exact Or.inl hty

theorem part_mem_decodedTypes (closed : snapshot.Closed) (h : decodedTypes snapshot = .ok types)
    {ty part : Ty} (hty : ty ∈ types) (hpart : part ∈ ty.parts) : part ∈ types := by
  rcases mem_or_record_of_mem_decodedTypes h hty with hold | ⟨cls, rfl⟩
  · exact subset_decodedTypes h (closed.part_mem ty hold part hpart)
  · exact List.mem_singleton.mp hpart ▸ hty

/-- Where the record of an event needs a function, so do the records of all kinds of objects. -/
theorem record_mem_of_event (h : decodedTypes snapshot = .ok types) {cls : String}
    (hcls : .record cls ∈ types) (event : Source.isEvent cls = true) {d : Dispatch}
    (hd : Dispatch.ofSnapshot snapshot = .ok d) {c : DispatchCase} (hc : c ∈ d.cases) :
    .record c.kind ∈ types := by
  unfold decodedTypes at h
  split at h
  · rcases Except.bind_eq_ok.mp h with ⟨other, hother, h⟩
    rw [hd] at hother
    rw [← Except.ok.inj h, ← Except.ok.inj hother]
    exact List.mem_append_right _ (List.mem_map_of_mem hc)
  · next noEvent =>
    rw [← Except.ok.inj h] at hcls
    exact absurd (List.any_eq_true.mpr ⟨_, hcls, event⟩) noEvent

theorem exists_decoded_of_record_call (closed : snapshot.Closed)
    (htypes : decodedTypes snapshot = .ok types) {cls : String} (hcls : .record cls ∈ types)
    {d : Decoder} (hd : Decoder.ofRecord snapshot cls = .ok d) {name : String}
    (hname : name ∈ d.calls) : ∃ ty ∈ types, decoderName ty = .ok name := by
  rcases Decoder.ofRecord_eq_ok hd with
    ⟨layout, assignments, dispatch, hlayout, hassignments, rfl, hdispatch⟩
  rcases List.mem_append.mp hname with hname | hname
  · -- The decoder of a member is that of its type in the layout.
    rcases List.mem_map.mp hname with ⟨a, ha, rfl⟩
    rcases Except.exists_of_mem_of_mapM_eq_ok hassignments ha with ⟨member, hmember, hread⟩
    have known := closed.layout_mem cls layout hlayout member hmember
    exact ⟨member.2, subset_decodedTypes htypes known, (Decoder.assignment_eq_ok hread).2.2⟩
  · rcases hdispatch with ⟨_, rfl⟩ | ⟨event, switch, hswitch, rfl⟩
    · simp at hname
    · -- The switch calls the function of the kinds, and that of the record of every kind.
      rcases List.mem_cons.mp hname with rfl | hname
      · rcases closed.kinds_mem with ⟨values, hkinds⟩
        exact ⟨_, subset_decodedTypes htypes hkinds,
          Dispatch.kindDecoder_of_ofSnapshot hswitch values⟩
      · rcases List.mem_map.mp hname with ⟨c, hc, rfl⟩
        exact ⟨_, record_mem_of_event htypes hcls event hswitch hc,
          Dispatch.decoder_of_mem_cases hswitch hc⟩

/-- Whatever the function of a type calls is the function of a type. -/
theorem exists_decoded_of_call (closed : snapshot.Closed)
    (htypes : decodedTypes snapshot = .ok types) {ty : Ty} (hty : ty ∈ types) {d : Decoder}
    (hd : Decoder.ofType snapshot ty = .ok d) {name : String} (hname : name ∈ d.calls) :
    ∃ other ∈ types, decoderName other = .ok name := by
  induction ty generalizing d with
  | primitive kind =>
    unfold Decoder.ofType at hd
    split at hd
    · rw [← Except.ok.inj hd] at hname
      simp [Decoder.calls] at hname
    · simp at hd
  | enum enumName values =>
    rw [← Except.ok.inj hd] at hname
    simp [Decoder.calls] at hname
  | ref cls =>
    rw [← Except.ok.inj hd] at hname
    simp [Decoder.calls] at hname
  | set item =>
    have hitem : item ∈ types := part_mem_decodedTypes closed htypes hty item.item_mem_parts
    rcases Except.bind_eq_ok.mp hd with ⟨itemName, _, hd⟩
    rcases Except.bind_eq_ok.mp hd with ⟨itemDecoder, hdecoder, hd⟩
    rw [← Except.ok.inj hd] at hname
    exact ⟨item, hitem, List.mem_singleton.mp hname ▸ hdecoder⟩
  | map key value =>
    have hkey : key ∈ types := part_mem_decodedTypes closed htypes hty (Ty.key_mem_parts _ _)
    have hvalue : value ∈ types :=
      part_mem_decodedTypes closed htypes hty (Ty.value_mem_parts _ _)
    rcases Except.bind_eq_ok.mp hd with ⟨keyName, _, hd⟩
    rcases Except.bind_eq_ok.mp hd with ⟨valueName, _, hd⟩
    rcases Except.bind_eq_ok.mp hd with ⟨keyDecoder, hkeyDecoder, hd⟩
    rcases Except.bind_eq_ok.mp hd with ⟨valueDecoder, hvalueDecoder, hd⟩
    rw [← Except.ok.inj hd] at hname
    rcases List.mem_cons.mp hname with rfl | hname
    · exact ⟨key, hkey, hkeyDecoder⟩
    · exact ⟨value, hvalue, List.mem_singleton.mp hname ▸ hvalueDecoder⟩
  | record cls => exact exists_decoded_of_record_call closed htypes hty hd hname
  | option inner ih =>
    -- An option is decoded by the decoder of the type inside it.
    have hinner : inner ∈ types := part_mem_decodedTypes closed htypes hty inner.inner_mem_parts
    exact ih hinner hd hname

end Calls

/-- A function that is called stands in the body, in front of its argument. -/
theorem Decoder.exists_line_of_call {d : Decoder} {name : String} (h : name ∈ d.calls) :
    ∃ line ∈ d.lines, ∃ before after, line = before ++ name ++ ("(" ++ after) := by
  cases d with
  | scalar s => simp [calls] at h
  | reference cls => simp [calls] at h
  | enumeration cls => simp [calls] at h
  | set item itemDecoder =>
    have split : "(item);" = "(" ++ "item);" := by decide
    rw [List.mem_singleton.mp h]
    refine ⟨"            " ++ item ++ " typed = " ++ itemDecoder ++ "(item);", by simp [lines],
      "            " ++ item ++ " typed = ", "item);", ?_⟩
    rw [split]
  | map key value keyDecoder valueDecoder =>
    have splitKey : "(entry.getKey());" = "(" ++ "entry.getKey());" := by decide
    have splitValue : "(entry.getValue());" = "(" ++ "entry.getValue());" := by decide
    rcases List.mem_cons.mp h with rfl | h
    · refine ⟨"            var key = " ++ name ++ "(entry.getKey());", by simp [lines],
        "            var key = ", "entry.getKey());", ?_⟩
      rw [splitKey]
    · rw [List.mem_singleton.mp h]
      refine ⟨"            var value = " ++ valueDecoder ++ "(entry.getValue());", by simp [lines],
        "            var value = ", "entry.getValue());", ?_⟩
      rw [splitValue]
  | record cls assignments dispatch =>
    rcases List.mem_append.mp h with h | h
    · rcases List.mem_map.mp h with ⟨a, ha, rfl⟩
      have split : "(map.get(\"" = "(" ++ "map.get(\"" := by decide
      refine ⟨a.line, ?_, "        record." ++ a.member ++ " = ",
        "map.get(\"" ++ a.wireKey ++ "\"));", ?_⟩
      · have inAssignments : a.line ∈ assignments.map Assignment.line := List.mem_map_of_mem ha
        unfold lines
        exact List.mem_append_left _ (List.mem_append_left _ (List.mem_append_right _ inAssignments))
      · unfold Assignment.line
        rw [split]
        simp only [String.append_assoc]
    · cases dispatch with
      | none => simp at h
      | some switch =>
        rcases Dispatch.exists_line_of_call h with ⟨line, hline, parts⟩
        refine ⟨line, ?_, parts⟩
        simp only [lines, List.mem_append]
        exact Or.inl (Or.inr hline)

/-- Functions that are closed under their own calls: each that is called, which the body shows, is
defined, and none is defined twice.  An event is decoded by the function for the kind of an
object. -/
structure ClosedUnderCalls (entries : List TypeEntry) : Prop where
  written : ∀ e ∈ entries, ∀ name ∈ e.decoder.calls, ∃ line ∈ e.decoder.lines,
    ∃ before after, line = before ++ name ++ ("(" ++ after)
  defined : ∀ e ∈ entries, ∀ name ∈ e.decoder.calls, ∃ other ∈ entries, other.methodName = name
  kinds : ∀ e ∈ entries, ∀ cls assignments switch,
    e.decoder = .record cls assignments (some switch) → switch.kindDecoder = "toXenAPIObjects"
  ordered : (entries.map TypeEntry.methodName).Pairwise (· < ·)

/-- The functions of the shared source are closed under their own calls. -/
theorem typeEntries_closed {c : Config} {document : Json} {schema : Schema} {disk : Disk}
    {p : Progress} {entries : List TypeEntry} (parsed : Schema.ofDocument document = .ok schema)
    (completed : (Run.classes c schema).Completes (Progress.start disk) () p)
    (declared : typeEntries p.registry.freeze.2 = .ok entries) : ClosedUnderCalls entries := by
  have closed := Run.closed_of_classes parsed completed
  rcases serves_of_typeEntries declared with ⟨types, htypes, serves, ordered⟩
  refine ⟨fun e _ name hname => Decoder.exists_line_of_call hname, ?_, ?_, ordered⟩
  · -- From a function to its type, to the type that it calls for, to the function of that one.
    intro e he name hname
    rcases serves.origin e he with ⟨ty, hty, _, _, hdecoder⟩
    rcases exists_decoded_of_call closed htypes hty hdecoder hname with ⟨called, hcalled, hnamed⟩
    rcases serves.served called hcalled with ⟨other, hother, hserved⟩
    rw [hnamed] at hserved
    exact ⟨other, hother, (Except.ok.inj hserved).symm⟩
  · intro e he cls assignments switch hswitch
    rcases serves.origin e he with ⟨ty, _, _, _, hdecoder⟩
    rw [hswitch] at hdecoder
    rcases Decoder.ofType_eq_record hdecoder with ⟨name, hrecord⟩
    rcases Decoder.ofRecord_eq_ok hrecord with ⟨_, _, dispatch, _, _, same, hdispatch⟩
    injection same with _ _ sameDispatch
    rcases hdispatch with ⟨_, none⟩ | ⟨_, found, hfound, some⟩
    · rw [none] at sameDispatch
      simp at sameDispatch
    · rw [some] at sameDispatch
      exact Option.some.inj sameDispatch ▸ Dispatch.kindDecoder_eq hfound

end Shared

namespace Sample

/-- The schema of a document, the progress once its class sources are written, the types that need a
function, and the functions. -/
def declared? (document : Json) : Option (Schema × Progress × List Ty × List Shared.TypeEntry) := do
  let (schema, p) ← Run.collect? config disk document
  let types ← (Shared.decodedTypes p.registry.freeze.2).toOption
  let entries ← (Shared.typeEntries p.registry.freeze.2).toOption
  return (schema, p, types, entries)

theorem of_declared?_eq_some {document : Json} {schema : Schema} {p : Progress} {types : List Ty}
    {entries : List Shared.TypeEntry} (h : declared? document = some (schema, p, types, entries)) :
    Schema.ofDocument document = .ok schema ∧
      (Run.classes config schema).Completes (Progress.start disk) () p ∧
      Shared.decodedTypes p.registry.freeze.2 = .ok types ∧
      Shared.typeEntries p.registry.freeze.2 = .ok entries := by
  rcases Option.bind_eq_some_iff.mp h with ⟨⟨schema', p'⟩, collected, h⟩
  rcases Option.bind_eq_some_iff.mp h with ⟨types', decoded, h⟩
  rcases Option.bind_eq_some_iff.mp h with ⟨entries', declared, h⟩
  simp only [pure, Option.some.injEq, Prod.mk.injEq] at h
  rcases h with ⟨rfl, rfl, rfl, rfl⟩
  rcases Run.of_collect?_eq_some collected with ⟨parsed, completed⟩
  exact ⟨parsed, completed, Except.eq_ok_of_toOption decoded, Except.eq_ok_of_toOption declared⟩

set_option maxRecDepth 20000 in
theorem declared?_events : (declared? events).isSome = true := by
  decide +kernel

end Sample

namespace Shared

theorem typeEntries_closed_events :
    ∃ schema p entries, Schema.ofDocument Sample.events = .ok schema ∧
      (Run.classes Sample.config schema).Completes (Progress.start Sample.disk) () p ∧
      typeEntries p.registry.freeze.2 = .ok entries ∧ ClosedUnderCalls entries := by
  rcases Option.isSome_iff_exists.mp Sample.declared?_events with ⟨⟨schema, p, types, entries⟩, h⟩
  rcases Sample.of_declared?_eq_some h with ⟨parsed, completed, _, declared⟩
  exact ⟨schema, p, entries, parsed, completed, declared,
    typeEntries_closed parsed completed declared⟩

end Shared
end ClientBindings
