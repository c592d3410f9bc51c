import ClientBindings.Proofs.Kinds

/-!
# ClassOrder — the shared source in another order of the classes

A document lists its classes in some order, and the registry is filled in that order: the places of
types, the last values of an enumeration and the kinds of objects all depend on it.  What the shared
source declares does not.  Its functions and its enumerations are sorted by name, and only the kinds
of objects, which are listed like the classes, come in another order.

* `Document.Rearranges` — a document with its classes in another order;
* `Snapshot.Alike`, `Run.alike_of_perm` — what two orders leave in the registry;
* `methodNames_subset`, `alikeBut_of_enumEntries` — functions and enumerations of such snapshots;
* `SameInterface`, `Run.sameInterface_of_rearranges` — the shared sources of the two orders.
-/

namespace ClientBindings

/-! ## Documents -/

namespace Document

/-- A document with its classes in another order. -/
structure Rearranges (document document' : Json) : Prop where
  classes : ∃ items items', entries document "classes" = .ok items ∧
    entries document' "classes" = .ok items' ∧ items'.Perm items
  others : ∀ key, key ≠ "classes" → document'.get? key = document.get? key

theorem eq_object_of_entries {j : Json} {key : String} {items : List Json}
    (h : entries j key = .ok items) : ∃ members, j = .object members := by
  cases j with
  | object members => exact ⟨members, rfl⟩
  | _ => cases h

namespace Rearranges

variable {document document' : Json}

theorem definitions_eq (h : Rearranges document document') :
    definitions document' = definitions document := by
  obtain ⟨items, items', hitems, hitems', _⟩ := h.classes
  obtain ⟨members, rfl⟩ := eq_object_of_entries hitems
  obtain ⟨members', rfl⟩ := eq_object_of_entries hitems'
  have enums : enums? (.object members') = enums? (.object members) := by
    unfold enums?
    rw [h.others "enums" (by decide)]
  have errors : errors? (.object members') = errors? (.object members) := by
    unfold errors?
    rw [h.others "errors" (by decide)]
  simp only [definitions, enums, errors]

theorem releases_eq (h : Rearranges document document') :
    entries document' "releases" = entries document "releases" := by
  obtain ⟨items, items', hitems, hitems', _⟩ := h.classes
  obtain ⟨members, rfl⟩ := eq_object_of_entries hitems
  obtain ⟨members', rfl⟩ := eq_object_of_entries hitems'
  simp only [entries, member?, h.others "releases" (by decide)]

/-- Such a document is accepted if the other one is, and has the same classes in another order. -/
theorem ofDocument_eq (h : Rearranges document document') {schema : Schema}
    (parsed : Schema.ofDocument document = .ok schema) :
    ∃ classes, classes.Perm schema.classes ∧
      Schema.ofDocument document' = .ok { schema with classes } := by
  obtain ⟨items, items', hitems, hitems', perm⟩ := h.classes
  unfold Schema.ofDocument at parsed ⊢
  rw [h.definitions_eq, h.releases_eq, hitems']
  rw [hitems] at parsed
  obtain ⟨defs, hdefs, parsed⟩ := Except.bind_eq_ok.mp parsed
  obtain ⟨read, hread, parsed⟩ := Except.bind_eq_ok.mp parsed
  cases hread
  obtain ⟨classes, hclasses, parsed⟩ := Except.bind_eq_ok.mp parsed
  -- Each class is read by itself, so the same classes are read in the other order.
  obtain ⟨classes', hclasses', same⟩ := Except.exists_mapM_perm perm hclasses
  obtain ⟨found, hfound, parsed⟩ := Except.bind_eq_ok.mp parsed
  obtain ⟨releases, hreleases, parsed⟩ := Except.bind_eq_ok.mp parsed
  cases parsed
  refine ⟨classes', same, ?_⟩
  refine Except.bind_eq_ok.mpr ⟨defs, hdefs, ?_⟩
  refine Except.bind_eq_ok.mpr ⟨items', rfl, ?_⟩
  refine Except.bind_eq_ok.mpr ⟨classes', hclasses', ?_⟩
  refine Except.bind_eq_ok.mpr ⟨found, hfound, ?_⟩
  exact Except.bind_eq_ok.mpr ⟨releases, hreleases, rfl⟩

end Rearranges
end Document

/-! ## Snapshots -/

/-- What the snapshot of one order of the classes tells about that of another.  The kinds of objects
are there under their name, in some order. -/
structure Snapshot.Alike (first second : Snapshot) : Prop where
  types : ∀ ty ∈ first.types, ty ∈ second.types ∨ ∃ values values',
    ty = .enum objectKindsName values ∧ .enum objectKindsName values' ∈ second.types
  enumNames : ∀ name ∈ first.enums.names, name ∈ second.enums.names
  values : ∀ name, name ≠ objectKindsName → first.enums.get? name = second.enums.get? name
  kinds : ∃ values values', first.enums.get? objectKindsName = some values ∧
    second.enums.get? objectKindsName = some values' ∧ values'.Perm values

theorem kindsOf_perm {classes classes' : List ApiClass} (perm : classes'.Perm classes) :
    (kindsOf classes').Perm (kindsOf classes) :=
  (perm.filter _).map _

namespace Run

variable {c c' : Config} {document document' : Json} {schema schema' : Schema} {disk disk' : Disk}
  {p p' : Progress}

theorem mem_enumNames_iff (completed : (classes c schema).Completes (Progress.start disk) () p)
    {name : String} :
    name ∈ p.registry.freeze.2.enums.names ↔ ∃ values, schema.Uses (.enum name values) :=
  (collected_of_classes completed).enumNames name

/-- What the classes mention does not depend on their order. -/
theorem uses_of_perm (perm : schema'.classes.Perm schema.classes) {ty : Ty}
    (used : schema.Uses ty) : schema'.Uses ty ∨ ty = objectKinds schema.classes := by
  rcases Schema.uses_iff.mp used with kinds | ⟨cls, hcls, root, hroot, hpart⟩
  · exact Or.inr kinds
  · exact Or.inl (Schema.uses_iff.mpr (Or.inr ⟨cls, perm.mem_iff.mpr hcls, root, hroot, hpart⟩))

theorem alike_of_perm (parsed : Schema.ofDocument document = .ok schema)
    (parsed' : Schema.ofDocument document' = .ok schema')
    (perm : schema'.classes.Perm schema.classes)
    (completed : (classes c schema).Completes (Progress.start disk) () p)
    (completed' : (classes c' schema').Completes (Progress.start disk') () p') :
    p.registry.freeze.2.Alike p'.registry.freeze.2 := by
  have mentions : ∀ {ty : Ty}, (∃ cls ∈ schema'.classes, ∃ root ∈ cls.types, ty ∈ root.parts) ↔
      ∃ cls ∈ schema.classes, ∃ root ∈ cls.types, ty ∈ root.parts := by
    intro ty
    simp only [perm.mem_iff]
  refine ⟨?_, ?_, ?_, ?_⟩
  · intro ty hty
    have used : schema.Uses ty := (mem_types_of_classes parsed completed ty).mp hty
    rcases uses_of_perm perm used with same | kinds
    · exact Or.inl ((mem_types_of_classes parsed' completed' ty).mpr same)
    · refine Or.inr ⟨kindsOf schema.classes, kindsOf schema'.classes, kinds, ?_⟩
      exact (mem_types_of_classes parsed' completed' _).mpr (Schema.uses_objectKinds schema')
  · intro name hname
    obtain ⟨values, used⟩ := (mem_enumNames_iff completed).mp hname
    apply (mem_enumNames_iff completed').mpr
    rcases uses_of_perm perm used with same | kinds
    · exact ⟨values, same⟩
    · -- The kinds have their name in every order.
      have named : name = objectKindsName := (Ty.enum.inj kinds).1
      rw [named]
      exact ⟨kindsOf schema'.classes, Schema.uses_objectKinds schema'⟩
  · intro name other
    by_cases mentioned : ∃ values, ∃ cls ∈ schema.classes, ∃ root ∈ cls.types,
        Ty.enum name values ∈ root.parts
    · obtain ⟨values, there⟩ := mentioned
      have first := get?_enums_of_mentioned parsed completed there
      have second := get?_enums_of_mentioned parsed' completed' (mentions.mpr there)
      rw [first, second]
    · -- No class mentions the name in either order, and it is not that of the kinds.
      have absent : ∀ {c : Config} {schema : Schema} {disk : Disk} {p : Progress},
          (classes c schema).Completes (Progress.start disk) () p →
          (¬∃ values, ∃ cls ∈ schema.classes, ∃ root ∈ cls.types,
            Ty.enum name values ∈ root.parts) →
          p.registry.freeze.2.enums.get? name = none := by
        intro c schema disk p completed unmentioned
        rw [← Option.not_isSome_iff_eq_none, Table.get?_isSome_iff, mem_enumNames_iff completed]
        rintro ⟨values, used⟩
        rcases Schema.uses_iff.mp used with kinds | there
        · exact other (Ty.enum.inj kinds).1
        · exact unmentioned ⟨values, there⟩
      have unmentioned : ¬∃ values, ∃ cls ∈ schema'.classes, ∃ root ∈ cls.types,
          Ty.enum name values ∈ root.parts := by
        rintro ⟨values, there⟩
        exact mentioned ⟨values, mentions.mp there⟩
      rw [absent completed mentioned, absent completed' unmentioned]
  · by_cases mentioned : ∃ values, ∃ cls ∈ schema.classes, ∃ root ∈ cls.types,
        Ty.enum objectKindsName values ∈ root.parts
    · obtain ⟨values, there⟩ := mentioned
      exact ⟨values, values, get?_enums_of_mentioned parsed completed there,
        get?_enums_of_mentioned parsed' completed' (mentions.mpr there), List.Perm.refl values⟩
    · have unmentioned : ¬∃ values, ∃ cls ∈ schema'.classes, ∃ root ∈ cls.types,
          Ty.enum objectKindsName values ∈ root.parts := by
        rintro ⟨values, there⟩
        exact mentioned ⟨values, mentions.mp there⟩
      exact ⟨_, _, get?_kinds_of_unmentioned completed mentioned,
        get?_kinds_of_unmentioned completed' unmentioned, kindsOf_perm perm⟩

end Run

namespace Shared

variable {first second : Snapshot}

/-! ## Functions -/

section Functions

variable {types types' : List Ty} {entries entries' : List TypeEntry}

theorem Dispatch.caseOf_eq_ok {kind : Json} {c : DispatchCase}
    (h : Dispatch.caseOf first kind = .ok c) : kind = .text c.kind := by
  unfold Dispatch.caseOf at h
  split at h
  · split at h
    · obtain ⟨decoder, _, rfl⟩ := Except.map_eq_ok.mp h
      rfl
    · cases h
  · cases h

/-- The types that need a function: those of the snapshot, and where the record of an event is among
them, the record of every kind of object. -/
theorem mem_decodedTypes_iff (h : decodedTypes first = .ok types) {ty : Ty} :
    ty ∈ types ↔ ty ∈ first.types ∨
      (∃ s ∈ first.types, isEventRecord s.eraseOption = true) ∧
        ∃ kind ∈ Dispatch.kinds first, ∃ cls, kind.wire = .text cls ∧ ty = .record cls := by
  unfold decodedTypes at h
  split at h
  · next event =>
    obtain ⟨dispatch, hdispatch, h⟩ := Except.bind_eq_ok.mp h
    obtain ⟨cases, hcases, hdispatch⟩ := Except.bind_eq_ok.mp hdispatch
    obtain ⟨kindDecoder, _, hdispatch⟩ := Except.bind_eq_ok.mp hdispatch
    cases hdispatch
    cases h
    rw [List.mem_append, List.mem_map]
    refine or_congr_right ?_
    constructor
    · rintro ⟨c, hc, rfl⟩
      obtain ⟨kind, hkind, found⟩ := Except.exists_of_mem_of_mapM_eq_ok hcases hc
      exact ⟨List.any_eq_true.mp event, kind, hkind, c.kind, Dispatch.caseOf_eq_ok found, rfl⟩
    · rintro ⟨_, kind, hkind, cls, named, rfl⟩
      obtain ⟨c, hc, found⟩ := Except.exists_of_mem_mapM hcases hkind
      refine ⟨c, hc, ?_⟩
      have same : Json.text cls = .text c.kind := named.symm.trans (Dispatch.caseOf_eq_ok found)
      cases same
      rfl
  · next noEvent =>
    cases h
    constructor
    · intro hty
      exact Or.inl hty
    · rintro (hty | ⟨event, _⟩)
      · exact hty
      · exact absurd (List.any_eq_true.mpr event) noEvent

/-- Whatever needs a function in one order of the classes has the name of a function in another. -/
theorem methodNames_subset (alike : first.Alike second) (h : typeEntries first = .ok entries)
    (h' : typeEntries second = .ok entries') :
    ∀ name ∈ entries.map TypeEntry.methodName, name ∈ entries'.map TypeEntry.methodName := by
  obtain ⟨types, htypes, serves, _⟩ := serves_of_typeEntries h
  obtain ⟨types', htypes', serves', _⟩ := serves_of_typeEntries h'
  have served : ∀ ty ∈ types', ∀ name, decoderName ty = .ok name →
      name ∈ entries'.map TypeEntry.methodName := by
    intro ty hty name hname
    obtain ⟨e, he, hserved⟩ := serves'.served ty hty
    rw [hname] at hserved
    exact List.mem_map.mpr ⟨e, he, (Except.ok.inj hserved).symm⟩
  intro name hname
  obtain ⟨e, he, rfl⟩ := List.mem_map.mp hname
  obtain ⟨ty, hty, hname, _, _⟩ := serves.origin e he
  rcases (mem_decodedTypes_iff htypes).mp hty with there | ⟨⟨s, hs, event⟩, kind, hkind, cls, named, rfl⟩
  · rcases alike.types ty there with same | ⟨values, values', rfl, kinds⟩
    · exact served ty (subset_decodedTypes htypes' same) _ hname
    · -- The decoder of an enumeration is named by the enumeration alone.
      exact served _ (subset_decodedTypes htypes' kinds) _ hname
  · refine served _ ((mem_decodedTypes_iff htypes').mpr (Or.inr ⟨?_, ?_⟩)) _ hname
    · rcases alike.types s hs with same | ⟨values, values', rfl, _⟩
      · exact ⟨s, same, event⟩
      · cases event
    · obtain ⟨values, values', hvalues, hvalues', perm⟩ := alike.kinds
      have here : Dispatch.kinds first = values := by simp [Dispatch.kinds, hvalues]
      have other : Dispatch.kinds second = values' := by simp [Dispatch.kinds, hvalues']
      rw [here] at hkind
      rw [other]
      exact ⟨kind, perm.mem_iff.mpr hkind, cls, named, rfl⟩

/-- Texts in strict order are determined by which texts they are. -/
theorem eq_of_pairwise_lt {xs ys : List String} (hxs : xs.Pairwise (· < ·))
    (hys : ys.Pairwise (· < ·)) (same : ∀ s, s ∈ xs ↔ s ∈ ys) : xs = ys := by
  have distinct : ∀ {zs : List String}, zs.Pairwise (· < ·) → zs.Nodup := by
    intro zs hzs
    refine hzs.imp ?_
    intro s t before equal
    exact String.lt_irrefl t (equal ▸ before)
  have perm : xs.Perm ys := (List.perm_ext_iff_of_nodup (distinct hxs) (distinct hys)).mpr same
  refine perm.eq_of_pairwise ?_ hxs hys
  intro s t _ _ before after
  exact absurd (String.lt_trans before after) (String.lt_irrefl s)

theorem methodNames_eq (alike : first.Alike second) (alike' : second.Alike first)
    (h : typeEntries first = .ok entries) (h' : typeEntries second = .ok entries') :
    entries'.map TypeEntry.methodName = entries.map TypeEntry.methodName := by
  obtain ⟨_, _, _, ordered⟩ := serves_of_typeEntries h
  obtain ⟨_, _, _, ordered'⟩ := serves_of_typeEntries h'
  refine eq_of_pairwise_lt ordered' ordered ?_
  intro name
  exact ⟨methodNames_subset alike' h' h name, methodNames_subset alike h h' name⟩

end Functions

/-! ## Enumerations -/

/-- Enumerations that are declared alike under the same names, but for the order of the values of the
one that is named by the exception. -/
inductive AlikeBut (exception : String) : List String → List EnumEntry → List EnumEntry → Prop where
  | nil : AlikeBut exception [] [] []
  | same {names : List String} {es es' : List EnumEntry} (name : String) (e : EnumEntry) :
      AlikeBut exception names es es' → AlikeBut exception (name :: names) (e :: es) (e :: es')
  | permuted {names : List String} {es es' : List EnumEntry} (e : EnumEntry)
      (values : List EnumConstant) : values.Perm e.values → AlikeBut exception names es es' →
      AlikeBut exception (exception :: names) (e :: es) ({ e with values } :: es')

/-- Names under which a snapshot declares its enumerations, in order. -/
def enumNames (snapshot : Snapshot) : List String :=
  (sortedBy Prod.fst snapshot.enums).map Prod.fst

section Enumerations

variable {entries entries' : List EnumEntry}

theorem pairwise_enumNames (distinct : first.enums.names.Nodup) :
    (enumNames first).Pairwise (· < ·) :=
  pairwise_names_sortedBy distinct

theorem mem_enumNames {name : String} : name ∈ enumNames first ↔ name ∈ first.enums.names := by
  simp only [enumNames, Table.names, List.mem_map, mem_sortedBy]

/-- Enumerations under the same names, with the same values but for an exception, are declared alike
but for it. -/
theorem alikeBut_of_mapM {exception : String} {enums enums' : Table (List EnumValue)}
    (names : enums'.map Prod.fst = enums.map Prod.fst)
    (values : ∀ name vs vs', (name, vs) ∈ enums → (name, vs') ∈ enums' →
      vs' = vs ∨ name = exception ∧ vs'.Perm vs)
    (h : enums.mapM enumEntry = .ok entries) (h' : enums'.mapM enumEntry = .ok entries') :
    AlikeBut exception (enums.map Prod.fst) entries entries' := by
  induction enums generalizing enums' entries entries' with
  | nil =>
    have none : enums' = [] := List.map_eq_nil_iff.mp names
    rw [none] at h'
    cases h
    cases h'
    exact .nil
  | cons first rest ih =>
    obtain ⟨⟨name', vs'⟩, rest', rfl, rfl, tails⟩ := List.map_eq_cons_iff.mp names
    obtain ⟨name, vs⟩ := first
    rw [List.mapM_cons] at h h'
    obtain ⟨e, he, h⟩ := Except.bind_eq_ok.mp h
    obtain ⟨es, hes, h⟩ := Except.bind_eq_ok.mp h
    obtain ⟨e', he', h'⟩ := Except.bind_eq_ok.mp h'
    obtain ⟨es', hes', h'⟩ := Except.bind_eq_ok.mp h'
    cases h
    cases h'
    have later : AlikeBut exception (rest.map Prod.fst) es es' := by
      refine ih tails ?_ hes hes'
      intro other ws ws' hws hws'
      exact values other ws ws' (List.mem_cons_of_mem _ hws) (List.mem_cons_of_mem _ hws')
    rcases values name vs vs' List.mem_cons_self List.mem_cons_self with rfl | ⟨rfl, perm⟩
    · have same : e' = e := Except.ok.inj (he'.symm.trans he)
      rw [same]
      exact .same name e later
    · obtain ⟨constants, hconstants, he⟩ := Except.bind_eq_ok.mp he
      obtain ⟨constants', hconstants', he'⟩ := Except.bind_eq_ok.mp he'
      cases he
      cases he'
      -- The same values in another order become the same constants in another order.
      obtain ⟨others, hothers, same⟩ := Except.exists_mapM_perm perm hconstants
      rw [hothers] at hconstants'
      cases hconstants'
      exact .permuted _ _ same later

theorem alikeBut_of_enumEntries (alike : first.Alike second) (alike' : second.Alike first)
    (distinct : first.enums.names.Nodup) (distinct' : second.enums.names.Nodup)
    (h : enumEntries first = .ok entries) (h' : enumEntries second = .ok entries') :
    enumNames second = enumNames first ∧
      AlikeBut objectKindsName (enumNames first) entries entries' := by
  have names : enumNames second = enumNames first := by
    refine eq_of_pairwise_lt (pairwise_enumNames distinct') (pairwise_enumNames distinct) ?_
    intro name
    rw [mem_enumNames, mem_enumNames]
    exact ⟨alike'.enumNames name, alike.enumNames name⟩
  refine ⟨names, alikeBut_of_mapM names ?_ h h'⟩
  intro name vs vs' hvs hvs'
  have here : first.enums.get? name = some vs := Table.get?_of_mem distinct (mem_sortedBy.mp hvs)
  have other : second.enums.get? name = some vs' := Table.get?_of_mem distinct' (mem_sortedBy.mp hvs')
  by_cases kinds : name = objectKindsName
  · obtain ⟨values, values', hvalues, hvalues', perm⟩ := alike.kinds
    rw [kinds, hvalues] at here
    rw [kinds, hvalues'] at other
    cases here
    cases other
    exact Or.inr ⟨kinds, perm⟩
  · have same := alike.values name kinds
    rw [here, other] at same
    exact Or.inl (Option.some.inj same).symm

end Enumerations

/-! ## Interfaces -/

/-- The shared sources of two snapshots declare the same: functions of the same names, the same
errors, and enumerations that are the same under the same names, but for the order of the kinds of
objects. -/
structure SameInterface (first second : Snapshot) (d d' : Declarations) : Prop where
  types : d'.types.map TypeEntry.methodName = d.types.map TypeEntry.methodName
  errors : d'.errors = d.errors
  names : enumNames second = enumNames first
  enums : AlikeBut objectKindsName (enumNames first) d.enums d'.enums

theorem declarations_eq_ok {snapshot : Snapshot} {errors : List ErrorDef} {d : Declarations}
    (h : declarations snapshot errors = .ok d) :
    errorEntries errors = .ok d.errors ∧ enumEntries snapshot = .ok d.enums ∧
      typeEntries snapshot = .ok d.types := by
  obtain ⟨errors, herrors, h⟩ := Except.bind_eq_ok.mp h
  obtain ⟨enums, henums, h⟩ := Except.bind_eq_ok.mp h
  obtain ⟨types, htypes, h⟩ := Except.bind_eq_ok.mp h
  cases h
  exact ⟨herrors, henums, htypes⟩

end Shared

namespace Run

variable {c : Config} {document document' : Json} {schema schema' : Schema} {disk disk' : Disk}
  {p p' : Progress} {d d' : Shared.Declarations}

/-- Whatever the order of the classes, the shared source has the same interface. -/
theorem sameInterface_of_rearranges (parsed : Schema.ofDocument document = .ok schema)
    (rearranged : Document.Rearranges document document')
    (parsed' : Schema.ofDocument document' = .ok schema')
    (completed : (classes c schema).Completes (Progress.start disk) () p)
    (completed' : (classes c schema').Completes (Progress.start disk') () p')
    (declared : Shared.declarations p.registry.freeze.2 schema.errors = .ok d)
    (declared' : Shared.declarations p'.registry.freeze.2 schema'.errors = .ok d') :
    Shared.SameInterface p.registry.freeze.2 p'.registry.freeze.2 d d' := by
  obtain ⟨classes', perm, same⟩ := rearranged.ofDocument_eq parsed
  rw [same] at parsed'
  cases parsed'
  have alike := alike_of_perm parsed same perm completed completed'
  have alike' := alike_of_perm same parsed perm.symm completed' completed
  have distinct := (collected_of_classes completed).nodupEnums
  have distinct' := (collected_of_classes completed').nodupEnums
  obtain ⟨herrors, henums, htypes⟩ := Shared.declarations_eq_ok declared
  obtain ⟨herrors', henums', htypes'⟩ := Shared.declarations_eq_ok declared'
  have errors : d'.errors = d.errors := Except.ok.inj (herrors'.symm.trans herrors)
  obtain ⟨names, enums⟩ :=
    Shared.alikeBut_of_enumEntries alike alike' distinct distinct' henums henums'
  exact ⟨Shared.methodNames_eq alike alike' htypes htypes', errors, names, enums⟩

end Run

/-! ## Two orders of a small document -/

namespace Sample

/-- A document of some classes, with two enumerations. -/
def listing (classes : List Json) : Json :=
  .object [
    ("enums", .object [
      ("power_state", .list [.text "halted", .text "running"]),
      ("vbd_mode", .list [.text "RO", .text "RW"])]),
    ("errors", .list [.object [("name", .text "BAD_STATE"), ("params", .list [.text "expected"])]]),
    ("classes", .list classes)]

/-- Three classes, two of one name.  The records of events stand for those of all others. -/
def repeated : List Json :=
  [.object [
      ("name", .text "vm"),
      ("fields", .list [typed "state" "enum<power_state>"])],
    .object [
      ("name", .text "event"),
      ("fields", .list [typed "time" "datetime"]),
      ("messages", .list [.object [("name", .text "next"), ("result", .text "record<event>")]])],
    .object [
      ("name", .text "vm"),
      ("fields", .list [typed "mode" "option<enum<vbd_mode>>", typed "self" "ref<vm>"])]]

theorem rearranges_listing {classes classes' : List Json} (perm : classes'.Perm classes) :
    Document.Rearranges (listing classes) (listing classes') := by
  refine ⟨⟨classes, classes', rfl, rfl, perm⟩, ?_⟩
  intro key other
  simp [listing, Json.get?, Table.get?_cons, other]

/-- The schema of a document, the progress once its class sources are written, and what the shared
source declares. -/
def interface? (document : Json) : Option (Schema × Progress × Shared.Declarations) := do
  let (schema, p) ← Run.collect? config disk document
  let d ← (Shared.declarations p.registry.freeze.2 schema.errors).toOption
  return (schema, p, d)

theorem of_interface?_eq_some {document : Json} {schema : Schema} {p : Progress}
    {d : Shared.Declarations} (h : interface? document = some (schema, p, d)) :
    Schema.ofDocument document = .ok schema ∧
      (Run.classes config schema).Completes (Progress.start disk) () p ∧
      Shared.declarations p.registry.freeze.2 schema.errors = .ok d := by
  obtain ⟨⟨schema', p'⟩, collected, h⟩ := Option.bind_eq_some_iff.mp h
  obtain ⟨d', declared, h⟩ := Option.bind_eq_some_iff.mp h
  cases h
  obtain ⟨parsed, completed⟩ := Run.of_collect?_eq_some collected
  exact ⟨parsed, completed, Except.eq_ok_of_toOption declared⟩

set_option maxRecDepth 20000 in
theorem interface?_repeated :
    (interface? (listing repeated)).isSome = true ∧
      (interface? (listing repeated.reverse)).isSome = true := by
  decide +kernel

end Sample

namespace Run

theorem sameInterface_of_rearranges_repeated :
    ∃ schema schema' p p' d d',
      Schema.ofDocument (Sample.listing Sample.repeated) = .ok schema ∧
      Document.Rearranges (Sample.listing Sample.repeated)
        (Sample.listing Sample.repeated.reverse) ∧
      Schema.ofDocument (Sample.listing Sample.repeated.reverse) = .ok schema' ∧
      (classes Sample.config schema).Completes (Progress.start Sample.disk) () p ∧
      (classes Sample.config schema').Completes (Progress.start Sample.disk) () p' ∧
      Shared.declarations p.registry.freeze.2 schema.errors = .ok d ∧
      Shared.declarations p'.registry.freeze.2 schema'.errors = .ok d' ∧
      Shared.SameInterface p.registry.freeze.2 p'.registry.freeze.2 d d' := by
  obtain ⟨first, second⟩ := Sample.interface?_repeated
  obtain ⟨⟨schema, p, d⟩, h⟩ := Option.isSome_iff_exists.mp first
  obtain ⟨⟨schema', p', d'⟩, h'⟩ := Option.isSome_iff_exists.mp second
  obtain ⟨parsed, completed, declared⟩ := Sample.of_interface?_eq_some h
  obtain ⟨parsed', completed', declared'⟩ := Sample.of_interface?_eq_some h'
  have rearranged := Sample.rearranges_listing (List.reverse_perm Sample.repeated)
  exact ⟨schema, schema', p, p', d, d', parsed, rearranged, parsed', completed, completed', declared,
    declared', sameInterface_of_rearranges parsed rearranged parsed' completed completed' declared
      declared'⟩

end Run
end ClientBindings
