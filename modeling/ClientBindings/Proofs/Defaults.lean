import ClientBindings.Proofs.Constants
import ClientBindings.Proofs.Members

/-!
# Defaults — the constants that stand for members without a value

The map of a record has a default for each leaf of its class.  The default of an enumeration is one
of its constants: the one for unknown values, or the one that a table has for its name.  The table
goes by the name alone and the constants come from the values, so the two agree exactly if the
values come to the constant of the table.

* `Source.MapEntry.Suits` — an entry of the map whose default is a declared constant;
* `Run.DefaultsDeclared`, `Run.defaultsDeclared_iff` — all leaves of a run, for any table;
* `Run.defaultsDeclared_iff_of_builtIn` — the table that is built in.
-/

namespace ClientBindings

/-- Where items are related one by one, a relation of the pairs may come to a property of the items
on one side. -/
theorem forall₂_iff_forall {α β : Type} {R S : α → β → Prop} {P : α → Prop} {xs : List α}
    {ys : List β} (related : List.Forall₂ R xs ys)
    (each : ∀ x ∈ xs, ∀ y, R x y → (S x y ↔ P x)) :
    List.Forall₂ S xs ys ↔ ∀ x ∈ xs, P x := by
  induction related with
  | nil => simp
  | cons first _ ih =>
    have rest := ih fun x hx => each x (List.mem_cons_of_mem _ hx)
    rw [List.forall₂_cons, rest, each _ List.mem_cons_self _ first, List.forall_mem_cons]

/-! ## Entries of a map -/

namespace Source

open Emission

/-- The entry of a leaf suits some declared enumerations if its default is a constant of the
enumeration of the leaf. -/
structure MapEntry.Suits (enums : List Shared.EnumEntry) (leaf : Leaf) (e : MapEntry) : Prop where
  name : e.name = leaf.memberName
  wireKey : e.wireKey = leaf.path
  default : ∀ name values, leaf.field.ty.eraseOption = .enum name values →
    ∃ entry ∈ enums, Shared.enumEntry (name, values) = .ok entry ∧
      ∃ constant ∈ entry.constants,
        e.default = some ("Types." ++ entry.className ++ "." ++ constant)

/-- The map of a record starts with the entries of the leaves. -/
theorem RecordSource.maps_of_ofClass {s : Settings} {cls : ApiClass} {record : RecordSource}
    (h : (ofClass s cls cls.syntheticMembers).result = .ok record) :
    List.Forall₂ (fun leaf e => (mapEntry s leaf).result = .ok e) cls.leaves
      (record.mapped.take cls.leaves.length) := by
  rcases ofClass_eq_ok h with ⟨mapped, _, hmapped, _, inMap, _⟩
  have leaves := Except.mapM_eq_ok.mp hmapped
  rw [inMap, leaves.length_eq, List.take_left]
  exact leaves

theorem default_of_mapEntry {s : Settings} {leaf : Leaf} {e : MapEntry}
    (h : (mapEntry s leaf).result = .ok e) {name : String} {values : List EnumValue}
    (bare : leaf.field.ty.eraseOption = .enum name values) {entry : Shared.EnumEntry}
    (declared : Shared.enumEntry (name, values) = .ok entry) :
    e.default = some ("Types." ++ entry.className ++ "." ++
      (s.overrides.get? name).getD Ty.unrecognized) := by
  rcases result_bind_eq_ok.mp h with ⟨literal, hliteral, h⟩
  rw [Ty.result_defaultValue_eraseOption, bare,
    (Shared.declares_of_enumEntry declared s.overrides).default] at hliteral
  rw [← Except.ok.inj h, ← Except.ok.inj hliteral]

end Source

/-- Whether the default of a type is a constant, in case the type is an enumeration. -/
def Ty.defaultsToConstant (overrides : Overrides) (ty : Ty) : Bool :=
  match ty.eraseOption with
  | enum name values => (overrides.get? name).getD unrecognized ∈ Shared.constantsOf values
  | _ => true

theorem Ty.defaultsToConstant_iff {overrides : Overrides} {ty : Ty} :
    ty.defaultsToConstant overrides = true ↔ ∀ name values, ty.eraseOption = enum name values →
      (overrides.get? name).getD unrecognized ∈ Shared.constantsOf values := by
  unfold defaultsToConstant
  split
  · next name values same =>
    rw [decide_eq_true_iff, same]
    constructor
    · intro known other others bare
      cases bare
      exact known
    · intro known
      exact known name values rfl
  · next other =>
    refine iff_of_true rfl ?_
    intro name values bare
    exact absurd bare (other name values)

namespace Source

/-- An entry suits the declared enumerations exactly if the type of its leaf defaults to a
constant. -/
theorem suits_iff {s : Settings} {leaf : Leaf} {e : MapEntry} {enums : List Shared.EnumEntry}
    (h : (mapEntry s leaf).result = .ok e)
    (declared : ∀ name values, leaf.field.ty.eraseOption = .enum name values →
      ∃ entry ∈ enums, Shared.enumEntry (name, values) = .ok entry) :
    e.Suits enums leaf ↔ leaf.field.ty.defaultsToConstant s.overrides = true := by
  rw [Ty.defaultsToConstant_iff]
  constructor
  · intro suits name values bare
    rcases suits.default name values bare with ⟨entry, _, made, constant, known, written⟩
    rw [default_of_mapEntry h bare made] at written
    have same := (String.append_right_inj _).mp (Option.some.inj written)
    rw [same, ← Shared.constants_of_enumEntry made]
    exact known
  · intro defaults
    refine ⟨(mapEntry_eq_ok h).1, (mapEntry_eq_ok h).2, ?_⟩
    intro name values bare
    rcases declared name values bare with ⟨entry, hentry, made⟩
    refine ⟨entry, hentry, made, _, ?_, default_of_mapEntry h bare made⟩
    rw [Shared.constants_of_enumEntry made]
    exact defaults name values bare

end Source

/-! ## Whole runs -/

namespace Run

variable {c : Config} {document : Json} {schema : Schema} {summary : Summary}

/-- The maps of all records of a schema have defaults that are declared: the entries of the leaves
come first, in order, and each suits the declared enumerations. -/
def DefaultsDeclared (c : Config) (schema : Schema) (enums : List Shared.EnumEntry) : Prop :=
  ∀ cls ∈ schema.classes, cls.isEmpty = false → ∃ source record,
    sourceOf c schema cls = .ok source ∧ source.record = some record ∧
      List.Forall₂ (Source.MapEntry.Suits enums) cls.leaves
        (record.mapped.take cls.leaves.length)

/-- In a run that completes, a class with contents has a record in its source. -/
theorem exists_record (completed : (run c schema).result = .ok summary) {cls : ApiClass}
    (hcls : cls ∈ schema.classes) (filled : cls.isEmpty = false) :
    ∃ source record, sourceOf c schema cls = .ok source ∧ source.record = some record ∧
      (Source.RecordSource.ofClass (c.settings schema) cls cls.syntheticMembers).result =
        .ok record := by
  rcases exists_completion completed with ⟨done⟩
  rcases Except.exists_of_mem_mapM done.generated hcls with ⟨source, _, hsource⟩
  rcases Source.record_of_ofClass filled (Emission.result_of_settled hsource) with
    ⟨record, hrecord, made⟩
  exact ⟨source, record, hsource, hrecord, made⟩

/-- The enumeration of a leaf is declared, with its values. -/
theorem exists_entry_of_leaf (parsed : Schema.ofDocument document = .ok schema)
    (completed : (run c schema).result = .ok summary) {cls : ApiClass} (hcls : cls ∈ schema.classes)
    (filled : cls.isEmpty = false) {leaf : Leaf} (hleaf : leaf ∈ cls.leaves) {name : String}
    {values : List EnumValue} (bare : leaf.field.ty.eraseOption = .enum name values) :
    ∃ entry ∈ summary.declarations.enums, Shared.enumEntry (name, values) = .ok entry := by
  have mentioned : leaf.field.ty ∈ cls.types :=
    List.mem_append_left _ (ApiClass.mem_recordTypes.mpr ⟨filled, Or.inl ⟨leaf, hleaf, rfl⟩⟩)
  have part : Ty.enum name values ∈ leaf.field.ty.parts :=
    bare ▸ leaf.field.ty.eraseOption_mem_parts
  exact exists_entry_of_registers parsed completed (.mentioned hcls mentioned part)

/-- The entries of the leaves of a class suit the declared enumerations exactly if the types of the
leaves default to constants. -/
theorem suits_leaves_iff (parsed : Schema.ofDocument document = .ok schema)
    (completed : (run c schema).result = .ok summary) {cls : ApiClass} (hcls : cls ∈ schema.classes)
    (filled : cls.isEmpty = false) {record : Source.RecordSource}
    (made : (Source.RecordSource.ofClass (c.settings schema) cls cls.syntheticMembers).result =
      .ok record) :
    List.Forall₂ (Source.MapEntry.Suits summary.declarations.enums) cls.leaves
        (record.mapped.take cls.leaves.length) ↔
      ∀ leaf ∈ cls.leaves, leaf.field.ty.defaultsToConstant c.overrides = true := by
  refine forall₂_iff_forall (Source.RecordSource.maps_of_ofClass made) ?_
  intro leaf hleaf e he
  refine Source.suits_iff he ?_
  intro name values bare
  exact exists_entry_of_leaf parsed completed hcls filled hleaf bare

/-- All defaults are declared exactly if the type of every leaf defaults to a constant. -/
theorem defaultsDeclared_iff (parsed : Schema.ofDocument document = .ok schema)
    (completed : (run c schema).result = .ok summary) :
    DefaultsDeclared c schema summary.declarations.enums ↔
      ∀ cls ∈ schema.classes, cls.isEmpty = false → ∀ leaf ∈ cls.leaves,
        leaf.field.ty.defaultsToConstant c.overrides = true := by
  constructor
  · intro declared cls hcls filled
    rcases declared cls hcls filled with ⟨source, record, hsource, hrecord, suits⟩
    rcases exists_record completed hcls filled with ⟨other, same, hother, hsame, made⟩
    cases Except.ok.inj (hsource.symm.trans hother)
    cases Option.some.inj (hrecord.symm.trans hsame)
    exact (suits_leaves_iff parsed completed hcls filled made).mp suits
  · intro defaults cls hcls filled
    rcases exists_record completed hcls filled with ⟨source, record, hsource, hrecord, made⟩
    have suits := (suits_leaves_iff parsed completed hcls filled made).mpr
      (defaults cls hcls filled)
    exact ⟨source, record, hsource, hrecord, suits⟩

end Run

/-! ## The table that is built in -/

theorem Config.get?_defaultOverrides (name : String) :
    defaultOverrides.get? name =
      if name = "vif_locking_mode" then some "NETWORK_DEFAULT" else none :=
  Table.get?_cons _ _ [] name

/-- With the table that is built in, one enumeration has to come to a constant of its own. -/
theorem Ty.defaultsToConstant_builtIn_iff {ty : Ty} :
    ty.defaultsToConstant Config.defaultOverrides = true ↔
      ∀ values, ty.eraseOption = enum "vif_locking_mode" values →
        ∃ v ∈ values, Naming.constantCase v.wire.display = "NETWORK_DEFAULT" := by
  have listed : ∀ values : List EnumValue,
      "NETWORK_DEFAULT" ∈ Shared.constantsOf values ↔
        ∃ v ∈ values, Naming.constantCase v.wire.display = "NETWORK_DEFAULT" := by
    simp [Shared.constantsOf, unrecognized]
  rw [defaultsToConstant_iff]
  constructor
  · intro defaults values bare
    have known := defaults _ values bare
    rw [Config.get?_defaultOverrides, if_pos rfl] at known
    exact (listed values).mp known
  · intro known name values bare
    rw [Config.get?_defaultOverrides]
    by_cases overridden : name = "vif_locking_mode"
    · rw [if_pos overridden]
      exact (listed values).mpr (known values (overridden ▸ bare))
    · rw [if_neg overridden]
      exact List.mem_cons_self

namespace Run

/-- With the table that is built in, all defaults are declared exactly if the one enumeration of the
table has a value that comes to the constant of the table, wherever a leaf has its type. -/
theorem defaultsDeclared_iff_of_builtIn {c : Config} {document : Json} {schema : Schema}
    {summary : Summary} (builtIn : c.overrides = Config.defaultOverrides)
    (parsed : Schema.ofDocument document = .ok schema)
    (completed : (run c schema).result = .ok summary) :
    DefaultsDeclared c schema summary.declarations.enums ↔
      ∀ cls ∈ schema.classes, cls.isEmpty = false → ∀ leaf ∈ cls.leaves, ∀ values,
        leaf.field.ty.eraseOption = .enum "vif_locking_mode" values →
          ∃ v ∈ values, Naming.constantCase v.wire.display = "NETWORK_DEFAULT" := by
  rw [defaultsDeclared_iff parsed completed, builtIn]
  simp only [Ty.defaultsToConstant_builtIn_iff]

end Run

/-! ## Documents with the enumeration of the table -/

namespace Sample

def builtIn : Config :=
  { config with overrides := Config.defaultOverrides }

/-- A class of network interfaces whose locking has some values. -/
def locking (values : List Json) : Json :=
  .object [
    ("enums", .object [("vif_locking_mode", .list values), ("on_boot", .list [.text "reset"])]),
    ("classes", .list [
      .object [
        ("name", .text "vif"),
        ("fields", .list [typed "locking_mode" "option<enum<vif_locking_mode>>",
          typed "on_boot" "enum<on_boot>"])]])]

/-- The defaults in the maps of all records, and the constants of the declared enumerations. -/
def defaults (schema : Schema) (summary : Summary) : List String × List (List String) :=
  ((schema.classes.flatMap ApiClass.leaves).filterMap fun leaf =>
      (leaf.field.ty.defaultValue builtIn.overrides).result.toOption,
    summary.declarations.enums.map Shared.EnumEntry.constants)

set_option maxRecDepth 20000 in
theorem defaults_locking :
    ((Run.finished? builtIn (locking [.text "network_default", .text "locked"])).any
      fun (schema, summary) => (∀ cls ∈ schema.classes, cls.isEmpty = false →
          ∀ leaf ∈ cls.leaves, leaf.field.ty.defaultsToConstant builtIn.overrides = true) ∧
        defaults schema summary =
          (["Types.VifLockingMode.NETWORK_DEFAULT", "Types.OnBoot.UNRECOGNIZED"],
            [["UNRECOGNIZED", "VIF"], ["UNRECOGNIZED", "RESET"],
              ["UNRECOGNIZED", "NETWORK_DEFAULT", "LOCKED"]])) = true := by
  decide +kernel

set_option maxRecDepth 20000 in
theorem defaults_locked :
    ((Run.finished? builtIn (locking [.text "locked"])).any
      fun (schema, summary) => ¬(∀ cls ∈ schema.classes, cls.isEmpty = false →
          ∀ leaf ∈ cls.leaves, leaf.field.ty.defaultsToConstant builtIn.overrides = true) ∧
        defaults schema summary =
          (["Types.VifLockingMode.NETWORK_DEFAULT", "Types.OnBoot.UNRECOGNIZED"],
            [["UNRECOGNIZED", "VIF"], ["UNRECOGNIZED", "RESET"], ["UNRECOGNIZED", "LOCKED"]])) =
      true := by
  decide +kernel

end Sample

namespace Run

theorem defaultsDeclared_iff_of_builtIn_locking :
    Sample.builtIn.overrides = Config.defaultOverrides ∧ ∃ schema summary,
      Schema.ofDocument (Sample.locking [.text "network_default", .text "locked"]) = .ok schema ∧
      (run Sample.builtIn schema).result = .ok summary ∧
      Sample.defaults schema summary =
        (["Types.VifLockingMode.NETWORK_DEFAULT", "Types.OnBoot.UNRECOGNIZED"],
          [["UNRECOGNIZED", "VIF"], ["UNRECOGNIZED", "RESET"],
            ["UNRECOGNIZED", "NETWORK_DEFAULT", "LOCKED"]]) ∧
      DefaultsDeclared Sample.builtIn schema summary.declarations.enums := by
  rcases (Option.any_eq_true _ _).mp Sample.defaults_locking with
    ⟨⟨schema, summary⟩, finished, facts⟩
  rcases of_finished?_eq_some finished with ⟨parsed, completed⟩
  rcases of_decide_eq_true facts with ⟨constants, shown⟩
  refine ⟨rfl, schema, summary, parsed, completed, shown, ?_⟩
  refine (defaultsDeclared_iff_of_builtIn rfl parsed completed).mpr ?_
  intro cls hcls filled leaf hleaf
  exact Ty.defaultsToConstant_builtIn_iff.mp (constants cls hcls filled leaf hleaf)

/-- The table goes by the name of the enumeration, whatever its values are. -/
theorem not_defaultsDeclared_of_locked :
    Sample.builtIn.overrides = Config.defaultOverrides ∧ ∃ schema summary,
      Schema.ofDocument (Sample.locking [.text "locked"]) = .ok schema ∧
      (run Sample.builtIn schema).result = .ok summary ∧
      Sample.defaults schema summary =
        (["Types.VifLockingMode.NETWORK_DEFAULT", "Types.OnBoot.UNRECOGNIZED"],
          [["UNRECOGNIZED", "VIF"], ["UNRECOGNIZED", "RESET"], ["UNRECOGNIZED", "LOCKED"]]) ∧
      ¬DefaultsDeclared Sample.builtIn schema summary.declarations.enums := by
  rcases (Option.any_eq_true _ _).mp Sample.defaults_locked with
    ⟨⟨schema, summary⟩, finished, facts⟩
  rcases of_finished?_eq_some finished with ⟨parsed, completed⟩
  rcases of_decide_eq_true facts with ⟨loose, shown⟩
  refine ⟨rfl, schema, summary, parsed, completed, shown, ?_⟩
  intro declared
  exact loose ((defaultsDeclared_iff parsed completed).mp declared)

end Run
end ClientBindings
