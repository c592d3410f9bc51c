import ClientBindings.Proofs.UsedNames

/-!
# Constants — what an enumeration decodes and shows

The shared source declares an enumeration with a constant for each value, named like the value in
upper case, and with one more for values that it does not know.  Its decoder looks a wire value up by
that name, and a constant is shown as the wire value of the first case for it.  Upper case tells
neither small letters from capital ones nor hyphens from underscores, so values that differ from each
other may still come to one constant, and a value may even come to the constant for unknown ones.

* `Shared.EnumEntry.Faithful` — constants are apart, and each value is shown as it was decoded from;
* `Shared.ConstantsApart`, `Shared.faithful_iff` — what that asks of the values;
* `Schema.Registers`, `Run.get?_enums_iff` — the values that count for an enumeration;
* `Run.faithful_iff_of_run` — all enumerations of a run.
-/

namespace ClientBindings
namespace Shared

/-! ## Decoding and showing -/

namespace EnumEntry

/-- All constants of an enumeration; the one for unknown values comes first. -/
def constants (e : EnumEntry) : List String :=
  Ty.unrecognized :: e.values.map EnumConstant.name

/-- The constant that a wire value is decoded to, as `Decoder.lines` has it: the one named like the
value in upper case, and the one for unknown values where there is none. -/
def decoded (e : EnumEntry) (wire : String) : String :=
  if Naming.constantCase wire ∈ e.constants then Naming.constantCase wire else Ty.unrecognized

/-- What a constant is shown as, by the cases of `EnumEntry.text`: the first case for it counts. -/
def shown (e : EnumEntry) (constant : String) : String :=
  ((e.values.map fun v => (v.name, v.wire)).lookup constant).getD "illegal enum"

/-- An enumeration whose constants are apart, so that each of its values is decoded to the constant
that is shown as the value again. -/
structure Faithful (e : EnumEntry) : Prop where
  apart : (e.values.map EnumConstant.name).Nodup
  known : Ty.unrecognized ∉ e.values.map EnumConstant.name
  restored : ∀ v ∈ e.values, e.decoded v.wire = v.name ∧ e.shown (e.decoded v.wire) = v.wire

instance (e : EnumEntry) : Decidable e.Faithful :=
  decidable_of_iff
    ((e.values.map EnumConstant.name).Nodup ∧ Ty.unrecognized ∉ e.values.map EnumConstant.name ∧
      ∀ v ∈ e.values, e.decoded v.wire = v.name ∧ e.shown (e.decoded v.wire) = v.wire)
    ⟨fun h => ⟨h.1, h.2.1, h.2.2⟩, fun h => ⟨h.apart, h.known, h.restored⟩⟩

end EnumEntry

/-- The constants that values come to, behind the one for unknown values. -/
def constantsOf (values : List EnumValue) : List String :=
  Ty.unrecognized :: values.map fun v => Naming.constantCase v.wire.display

/-- Values that come to constants apart from each other and from the one for unknown values. -/
def ConstantsApart (values : List EnumValue) : Prop :=
  (constantsOf values).Nodup

theorem name_of_enumConstant {v : EnumValue} {constant : EnumConstant}
    (h : enumConstant v = .ok constant) :
    constant.name = Naming.constantCase constant.wire := by
  rcases Except.bind_eq_ok.mp h with ⟨description, _, h⟩
  rcases Except.bind_eq_ok.mp h with ⟨wire, _, hreturn⟩
  cases hreturn
  rfl

section Entries

variable {name : String} {values : List EnumValue} {entry : EnumEntry}

theorem name_of_mem_values (h : enumEntry (name, values) = .ok entry) {constant : EnumConstant}
    (hconstant : constant ∈ entry.values) : constant.name = Naming.constantCase constant.wire := by
  rcases Except.bind_eq_ok.mp h with ⟨constants, hconstants, hreturn⟩
  cases hreturn
  rcases Except.exists_of_mem_of_mapM_eq_ok hconstants hconstant with ⟨v, _, made⟩
  exact name_of_enumConstant made

/-- The constants of an enumeration are those that its values come to. -/
theorem constants_of_enumEntry (h : enumEntry (name, values) = .ok entry) :
    entry.constants = constantsOf values := by
  rcases Except.bind_eq_ok.mp h with ⟨constants, hconstants, hreturn⟩
  cases hreturn
  refine congrArg (List.cons _) (Except.map_eq_of_mapM_eq_ok _ _ ?_ hconstants)
  intro v constant made
  rw [name_of_enumConstant made, ← wire_of_enumConstant made]
  rfl

/-- An enumeration is faithful exactly if its values come to constants apart. -/
theorem faithful_iff (h : enumEntry (name, values) = .ok entry) :
    entry.Faithful ↔ ConstantsApart values := by
  rw [ConstantsApart, ← constants_of_enumEntry h]
  constructor
  · intro faithful
    exact List.nodup_cons.mpr ⟨faithful.known, faithful.apart⟩
  · intro apart
    obtain ⟨known, distinct⟩ := List.nodup_cons.mp apart
    refine ⟨distinct, known, ?_⟩
    intro v hv
    have decoded : entry.decoded v.wire = v.name := by
      have there : Naming.constantCase v.wire ∈ entry.constants := by
        rw [← name_of_mem_values h hv]
        exact List.mem_cons_of_mem _ (List.mem_map_of_mem hv)
      rw [EnumEntry.decoded, if_pos there, name_of_mem_values h hv]
    have case : (v.name, v.wire) ∈ entry.values.map fun v => (v.name, v.wire) :=
      List.mem_map_of_mem hv
    -- The constant of the value is that of no other one, so the first case for it is its own.
    have own : Table.get? (entry.values.map fun v => (v.name, v.wire)) v.name = some v.wire := by
      refine Table.get?_of_mem ?_ case
      rw [Table.names, List.map_map]
      exact distinct
    refine ⟨decoded, ?_⟩
    rw [decoded, EnumEntry.shown]
    exact congrArg (Option.getD · _) own

end Entries

/-- The entries of a snapshot are those of its enumerations. -/
theorem mem_enumEntries_iff {snapshot : Snapshot} {entries : List EnumEntry}
    (h : enumEntries snapshot = .ok entries) {entry : EnumEntry} :
    entry ∈ entries ↔ ∃ enum ∈ snapshot.enums, enumEntry enum = .ok entry := by
  rw [Except.mem_iff_of_mapM_eq_ok h]
  simp only [mem_sortedBy]

end Shared

/-! ## Registered values -/

/-- The values that count for an enumeration once all classes are written: those that the classes
mention it with.  The kinds of objects count where no class mentions an enumeration of their name. -/
inductive Schema.Registers (schema : Schema) : String → List EnumValue → Prop where
  | mentioned {cls : ApiClass} {ty : Ty} {name : String} {values : List EnumValue} :
      cls ∈ schema.classes → ty ∈ cls.types → .enum name values ∈ ty.parts →
      schema.Registers name values
  | kinds : (¬∃ values, ∃ cls ∈ schema.classes, ∃ ty ∈ cls.types,
      .enum objectKindsName values ∈ ty.parts) →
      schema.Registers objectKindsName (kindsOf schema.classes)

namespace Run

variable {c : Config} {document : Json} {schema : Schema} {disk : Disk} {p : Progress}

/-- The snapshot of a run holds each enumeration with the values that count for it. -/
theorem get?_enums_iff (parsed : Schema.ofDocument document = .ok schema)
    (completed : (classes c schema).Completes (Progress.start disk) () p) {name : String}
    {values : List EnumValue} :
    p.registry.freeze.2.enums.get? name = some values ↔ schema.Registers name values := by
  have exact := exact_of_classes parsed completed
  constructor
  · intro held
    have there : name ∈ p.registry.freeze.2.enums.names :=
      Table.get?_isSome_iff.mp (Option.isSome_iff_exists.mpr ⟨values, held⟩)
    rcases (exact.mem_enums name).mp there with ⟨others, hothers⟩
    rcases (exact.mem_types _).mp hothers with ⟨root, mentions, part⟩
    have used : schema.Uses (.enum name others) :=
      ⟨root, Schema.mem_rootTypes.mpr mentions, part⟩
    -- Either a class mentions an enumeration of the name, or it is that of the kinds alone.
    by_cases mentioned : ∃ given, ∃ cls ∈ schema.classes, ∃ ty ∈ cls.types,
        .enum name given ∈ ty.parts
    · rcases mentioned with ⟨given, cls, hcls, ty, hty, hpart⟩
      have last := get?_enums_of_mentioned parsed completed ⟨cls, hcls, ty, hty, hpart⟩
      rw [Option.some.inj (held.symm.trans last)]
      exact .mentioned hcls hty hpart
    · rcases Schema.uses_iff.mp used with kinds | mention
      · cases (Ty.enum.inj kinds).1
        have first := get?_kinds_of_unmentioned completed mentioned
        rw [Option.some.inj (held.symm.trans first)]
        exact .kinds mentioned
      · exact absurd ⟨others, mention⟩ mentioned
  · intro registered
    cases registered with
    | mentioned hcls hty hpart =>
      exact get?_enums_of_mentioned parsed completed ⟨_, hcls, _, hty, hpart⟩
    | kinds unmentioned => exact get?_kinds_of_unmentioned completed unmentioned

variable {summary : Summary}

/-- The declared enumerations of a run that completes, by the values that count for them. -/
theorem mem_enums_iff (parsed : Schema.ofDocument document = .ok schema)
    (completed : (run c schema).result = .ok summary) {entry : Shared.EnumEntry} :
    entry ∈ summary.declarations.enums ↔
      ∃ name values, schema.Registers name values ∧
        Shared.enumEntry (name, values) = .ok entry := by
  rcases exists_completion completed with ⟨done⟩
  rcases Shared.declarations_eq_ok done.declared with ⟨_, henums, _⟩
  have exact := exact_of_classes parsed done.classes
  rw [Shared.mem_enumEntries_iff henums]
  constructor
  · rintro ⟨⟨name, values⟩, there, made⟩
    have held := Table.get?_of_mem exact.nodup_enums there
    exact ⟨name, values, (get?_enums_iff parsed done.classes).mp held, made⟩
  · rintro ⟨name, values, registered, made⟩
    have held := (get?_enums_iff parsed done.classes).mpr registered
    exact ⟨(name, values), Table.mem_of_lookup_eq_some held, made⟩

/-- Whatever values count for an enumeration, there is a declaration of them. -/
theorem exists_entry_of_registers (parsed : Schema.ofDocument document = .ok schema)
    (completed : (run c schema).result = .ok summary) {name : String} {values : List EnumValue}
    (registered : schema.Registers name values) :
    ∃ entry ∈ summary.declarations.enums, Shared.enumEntry (name, values) = .ok entry := by
  rcases exists_completion completed with ⟨done⟩
  rcases Shared.declarations_eq_ok done.declared with ⟨_, henums, _⟩
  exact Shared.exists_enumEntry henums ((get?_enums_iff parsed done.classes).mpr registered)

/-- Decoding and showing restore all values of all enumerations exactly if the values of each come to
constants apart. -/
theorem faithful_iff_of_run (parsed : Schema.ofDocument document = .ok schema)
    (completed : (run c schema).result = .ok summary) :
    (∀ entry ∈ summary.declarations.enums, entry.Faithful) ↔
      ∀ name values, schema.Registers name values → Shared.ConstantsApart values := by
  constructor
  · intro faithful name values registered
    rcases exists_entry_of_registers parsed completed registered with ⟨entry, hentry, made⟩
    exact (Shared.faithful_iff made).mp (faithful entry hentry)
  · intro apart entry hentry
    rcases (mem_enums_iff parsed completed).mp hentry with ⟨name, values, registered, made⟩
    exact (Shared.faithful_iff made).mpr (apart name values registered)

end Run

/-! ## Enumerations with values that are alike -/

namespace Sample

set_option maxRecDepth 20000 in
theorem faithful_guarded :
    ((Run.finished? config guarded).any fun (_, summary) =>
      declaredNames summary = (["HandleInvalid"], ["XenAPIObjects", "PowerState"]) ∧
        ∀ entry ∈ summary.declarations.enums, entry.Faithful) = true := by
  decide +kernel

/-- Two values of an enumeration that differ in a hyphen alone. -/
def twins : Json :=
  .object [
    ("enums", .object [("mode", .list [.text "a-b", .text "a_b"])]),
    ("classes", .list [
      .object [
        ("name", .text "vm"),
        ("fields", .list [typed "mode" "enum<mode>"])]])]

/-- Wire values of an enumeration, its constants, and what its wire values are shown as behind the
decoder. -/
def shownValues (e : Shared.EnumEntry) : List String × List String × List String :=
  (e.values.map Shared.EnumConstant.wire, e.constants,
    e.values.map fun v => e.shown (e.decoded v.wire))

set_option maxRecDepth 20000 in
theorem shownValues_twins :
    ((Run.finished? config twins).any fun (schema, summary) =>
      schema.classes.map ApiClass.name = [.text "vm"] ∧
        summary.declarations.enums.map shownValues =
          [(["vm"], ["UNRECOGNIZED", "VM"], ["vm"]),
            (["a-b", "a_b"], ["UNRECOGNIZED", "A_B", "A_B"], ["a-b", "a-b"])]) = true := by
  decide +kernel

end Sample

namespace Run

theorem faithful_iff_of_run_guarded :
    ∃ schema summary, Schema.ofDocument Sample.guarded = .ok schema ∧
      (run Sample.config schema).result = .ok summary ∧
      Sample.declaredNames summary = (["HandleInvalid"], ["XenAPIObjects", "PowerState"]) ∧
      (∀ entry ∈ summary.declarations.enums, entry.Faithful) ∧
      ∀ name values, schema.Registers name values → Shared.ConstantsApart values := by
  rcases (Option.any_eq_true _ _).mp Sample.faithful_guarded with
    ⟨⟨schema, summary⟩, finished, facts⟩
  rcases of_finished?_eq_some finished with ⟨parsed, completed⟩
  rcases of_decide_eq_true facts with ⟨names, faithful⟩
  exact ⟨schema, summary, parsed, completed, names, faithful,
    (faithful_iff_of_run parsed completed).mp faithful⟩

/-- The values differ, but they have one constant, and it is shown as the first of them. -/
theorem not_faithful_of_twins :
    ∃ schema summary, Schema.ofDocument Sample.twins = .ok schema ∧
      (run Sample.config schema).result = .ok summary ∧
      schema.classes.map ApiClass.name = [.text "vm"] ∧
      ∃ entry ∈ summary.declarations.enums,
        Sample.shownValues entry =
          (["a-b", "a_b"], ["UNRECOGNIZED", "A_B", "A_B"], ["a-b", "a-b"]) ∧
        ¬entry.Faithful := by
  rcases (Option.any_eq_true _ _).mp Sample.shownValues_twins with
    ⟨⟨schema, summary⟩, finished, facts⟩
  rcases of_finished?_eq_some finished with ⟨parsed, completed⟩
  rcases of_decide_eq_true facts with ⟨classes, shown⟩
  have listed : (["a-b", "a_b"], ["UNRECOGNIZED", "A_B", "A_B"], ["a-b", "a-b"]) ∈
      summary.declarations.enums.map Sample.shownValues := by
    rw [shown]
    exact List.mem_cons_of_mem _ List.mem_cons_self
  rcases List.mem_map.mp listed with ⟨entry, hentry, same⟩
  refine ⟨schema, summary, parsed, completed, classes, entry, hentry, same, ?_⟩
  intro faithful
  have constants : entry.values.map Shared.EnumConstant.name = ["A_B", "A_B"] :=
    (List.cons.inj (congrArg (fun shown => shown.2.1) same)).2
  have apart := faithful.apart
  rw [constants] at apart
  exact absurd apart (by decide)

end Run
end ClientBindings
