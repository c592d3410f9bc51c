import ClientBindings.Proofs.Bodies

/-!
# Interchange — types that share a function

A function is shared by all types of its name.  That loses nothing as long as the types of one name
are decoded alike, which their names alone do not tell: a class and an enumeration of one name have
one decoder name, and so do two maps whose keys and values run together.

* `Same` — types with one Java type and one body;
* `SameForm` — types of one form, maps with one decoder of keys, records with one body;
* `same_of_unambiguous`, `sameForm_of_same` — for types of one decoder name the two are one;
* `owns_iff_unambiguous` — each type owns its function exactly if types of one decoder name are of
  one form.
-/

namespace ClientBindings

/-! ## Names on one line -/

namespace Ty

/-- Whether the names in a type keep to one line. -/
def Unbroken : Ty → Prop
  | primitive _ => True
  | enum name _ => '\n' ∉ name.toList
  | ref cls => '\n' ∉ cls.toList
  | record cls => '\n' ∉ cls.toList
  | set item => item.Unbroken
  | map key value => key.Unbroken ∧ value.Unbroken
  | option inner => inner.Unbroken

theorem unbroken_of_known {enums : Table (List EnumValue)} {ty : Ty} (h : ty.Known enums) :
    ty.Unbroken := by
  induction ty with
  | primitive kind => trivial
  | enum name values => exact (h _ (self_mem_parts _)).2
  | ref cls => exact h _ (self_mem_parts _)
  | record cls => exact h _ (self_mem_parts _)
  | set item ih => exact ih (known_of_part h item.item_mem_parts)
  | option inner ih => exact ih (known_of_part h inner.inner_mem_parts)
  | map key value ihKey ihValue =>
    exact ⟨ihKey (known_of_part h (key_mem_parts _ _)),
      ihValue (known_of_part h (value_mem_parts _ _))⟩

end Ty

namespace Run

theorem unbroken_of_mem_types {c : Config} {document : Json} {schema : Schema} {disk : Disk}
    {p : Progress} {u : Unit} (parsed : Schema.ofDocument document = .ok schema)
    (completed : (classes c schema).Completes (Progress.start disk) u p) {ty : Ty}
    (hty : ty ∈ p.registry.freeze.2.types) : ty.Unbroken := by
  rcases Schema.known_of_ofDocument parsed with ⟨enums, known⟩
  have used := (mem_types_of_classes parsed completed ty).mp hty
  rcases Schema.eq_objectKinds_or_known_of_uses known used with rfl | known
  · have unbroken : '\n' ∉ objectKindsName.toList := by decide
    exact unbroken
  · exact Ty.unbroken_of_known known

end Run

namespace Shared

/-! ## Names of decoders -/

section Names

open Emission

/-- Name of a type inside the name of its decoder. -/
def suffix (ty : Ty) : Except Fault String :=
  ty.decoderSuffix.result

theorem decoderName_eq_ok {ty : Ty} {name : String} :
    decoderName ty = .ok name ↔ ∃ s, suffix ty = .ok s ∧ "to" ++ s = name := by
  unfold decoderName suffix Ty.decoderName
  rw [result_bind_eq_ok]
  simp

theorem suffix_primitive_eq_ok {kind s : String} :
    suffix (.primitive kind) = .ok s ↔ ∃ scalar, Scalar.ofName? kind = some scalar ∧
      scalar.javaType = s := by
  have spelled : suffix (.primitive kind) = (Ty.ofScalar Scalar.javaType kind).result := by
    rw [suffix, Ty.decoderSuffix, Ty.result_meet_bind]
  rw [spelled, Ty.ofScalar]
  cases Scalar.ofName? kind <;> simp

theorem suffix_set_eq_ok {item : Ty} {s : String} :
    suffix (.set item) = .ok s ↔ ∃ inner, suffix item = .ok inner ∧ "SetOf" ++ inner = s := by
  unfold suffix
  rw [Ty.decoderSuffix, Ty.result_meet_bind, result_bind_eq_ok]
  simp

theorem suffix_map_eq_ok {key value : Ty} {s : String} :
    suffix (.map key value) = .ok s ↔ ∃ first, suffix key = .ok first ∧
      ∃ second, suffix value = .ok second ∧ "MapOf" ++ first ++ second = s := by
  unfold suffix
  rw [Ty.decoderSuffix, Ty.result_meet_bind, result_bind_eq_ok]
  simp only [result_bind_eq_ok, result_pure, Except.ok.injEq]

theorem suffix_option (inner : Ty) : suffix (.option inner) = suffix inner := by
  unfold suffix
  rw [Ty.decoderSuffix, Ty.result_meet_bind]

/-- The name of a decoder keeps to one line if the names in its type do. -/
theorem not_mem_suffix {ty : Ty} (unbroken : ty.Unbroken) {s : String} (h : suffix ty = .ok s) :
    '\n' ∉ s.toList := by
  induction ty generalizing s with
  | primitive kind =>
    rcases suffix_primitive_eq_ok.mp h with ⟨scalar, _, rfl⟩
    cases scalar <;> decide
  | enum name values =>
    rw [← Except.ok.inj h]
    exact Naming.not_mem_classCase unbroken
  | ref cls =>
    rw [← Except.ok.inj h]
    exact Naming.not_mem_classCase unbroken
  | record cls =>
    rw [← Except.ok.inj h, String.toList_append]
    exact List.not_mem_append (Naming.not_mem_classCase unbroken) (by decide)
  | set item ih =>
    rcases suffix_set_eq_ok.mp h with ⟨inner, hinner, rfl⟩
    rw [String.toList_append]
    exact List.not_mem_append (by decide) (ih unbroken hinner)
  | map key value ihKey ihValue =>
    rcases suffix_map_eq_ok.mp h with ⟨first, hfirst, second, hsecond, rfl⟩
    rw [String.toList_append, String.toList_append]
    exact List.not_mem_append
      (List.not_mem_append (by decide) (ihKey unbroken.1 hfirst)) (ihValue unbroken.2 hsecond)
  | option inner ih =>
    rw [suffix_option] at h
    exact ih unbroken h

theorem not_mem_decoderName {ty : Ty} (unbroken : ty.Unbroken) {name : String}
    (h : decoderName ty = .ok name) : '\n' ∉ name.toList := by
  rcases decoderName_eq_ok.mp h with ⟨s, hs, rfl⟩
  rw [String.toList_append]
  exact List.not_mem_append (by decide) (not_mem_suffix unbroken hs)

end Names

/-! ## Types that are decoded alike -/

/-- Types with one Java type and one body. -/
structure Same (snapshot : Snapshot) (s t : Ty) : Prop where
  typeName : typeName s = typeName t
  body : (Decoder.ofType snapshot s).map Decoder.text = (Decoder.ofType snapshot t).map Decoder.text

/-- Types whose decoders are of one form.  Maps have to decode their keys by one function, and
records have to have one body. -/
structure SameForm (snapshot : Snapshot) (s t : Ty) : Prop where
  form : Form.ofType s = Form.ofType t
  keys : ∀ key value key' value', s.eraseOption = .map key value → t.eraseOption = .map key' value' →
    decoderName key = decoderName key'
  bodies : ∀ cls cls', s.eraseOption = .record cls → t.eraseOption = .record cls' →
    (Decoder.ofRecord snapshot cls).map Decoder.text =
      (Decoder.ofRecord snapshot cls').map Decoder.text

/-- Types of one decoder name are of one form. -/
def Unambiguous (snapshot : Snapshot) (types : List Ty) : Prop :=
  ∀ s ∈ types, ∀ t ∈ types, decoderName s = decoderName t → SameForm snapshot s t

section Options

variable (snapshot : Snapshot) (ty : Ty)

theorem typeName_option (inner : Ty) : typeName (.option inner) = typeName inner := by
  unfold typeName
  rw [Ty.javaType, Ty.result_meet_bind]

theorem typeName_eraseOption : typeName ty.eraseOption = typeName ty := by
  induction ty with
  | option inner ih => rw [typeName_option, ← ih, Ty.eraseOption]
  | _ => rfl

theorem suffix_eraseOption : suffix ty.eraseOption = suffix ty := by
  induction ty with
  | option inner ih => rw [suffix_option, ← ih, Ty.eraseOption]
  | _ => rfl

theorem ofType_eraseOption :
    Decoder.ofType snapshot ty.eraseOption = Decoder.ofType snapshot ty := by
  induction ty with
  | option inner ih => exact ih
  | _ => rfl

end Options

theorem typeName_set (item : Ty) :
    typeName (.set item) = (typeName item).map fun name => "Set<" ++ name ++ ">" := by
  unfold typeName
  rw [Ty.javaType, Ty.result_meet_bind, Emission.result_bind]
  cases item.javaType.result <;> rfl

theorem typeName_map (key value : Ty) :
    typeName (.map key value) = (typeName key).bind fun first =>
      (typeName value).map fun second => "Map<" ++ first ++ ", " ++ second ++ ">" := by
  unfold typeName
  rw [Ty.javaType, Ty.result_meet_bind, Emission.result_bind]
  cases key.javaType.result with
  | error fault => rfl
  | ok first =>
    simp only [Emission.result_bind]
    cases value.javaType.result <;> rfl

namespace Same

variable {snapshot : Snapshot}

/-- Options do not count. -/
theorem of_eraseOption {s t : Ty} (h : Same snapshot s t.eraseOption) : Same snapshot s t := by
  refine ⟨?_, ?_⟩
  · rw [h.typeName, typeName_eraseOption]
  · rw [h.body, ofType_eraseOption]

theorem primitive {kind kind' spelled : String} (h : suffix (.primitive kind) = .ok spelled)
    (h' : suffix (.primitive kind') = .ok spelled) :
    Same snapshot (.primitive kind) (.primitive kind') := by
  rcases suffix_primitive_eq_ok.mp h with ⟨scalar, hscalar, rfl⟩
  rcases suffix_primitive_eq_ok.mp h' with ⟨scalar', hscalar', same⟩
  have lines : Decoder.scalarLines scalar = Decoder.scalarLines scalar' := by
    revert same
    cases scalar <;> cases scalar' <;> decide
  refine ⟨?_, ?_⟩
  · -- The decoder of a scalar is named by its Java type.
    exact h.trans h'.symm
  · unfold Decoder.ofType
    rw [hscalar, hscalar']
    simp only [Except.map, Decoder.text, Decoder.lines, lines]

theorem ref {cls cls' : String} (same : Naming.classCase cls = Naming.classCase cls') :
    Same snapshot (.ref cls) (.ref cls') := by
  refine ⟨?_, ?_⟩
  · exact congrArg Except.ok same
  · unfold Decoder.ofType
    rw [same]

theorem enum {name name' : String} (values values' : List EnumValue)
    (same : Naming.classCase name = Naming.classCase name') :
    Same snapshot (.enum name values) (.enum name' values') := by
  refine ⟨?_, ?_⟩
  · exact congrArg (fun shown => Except.ok ("Types." ++ shown)) same
  · unfold Decoder.ofType
    rw [same]

theorem record {cls cls' : String} (same : Naming.classCase cls = Naming.classCase cls')
    (body : (Decoder.ofRecord snapshot cls).map Decoder.text =
      (Decoder.ofRecord snapshot cls').map Decoder.text) :
    Same snapshot (.record cls) (.record cls') := by
  refine ⟨?_, body⟩
  exact congrArg (fun shown => Except.ok (shown ++ ".Record")) same

theorem set {item item' : Ty} (hitem : Same snapshot item item')
    (names : decoderName item = decoderName item') : Same snapshot (.set item) (.set item') := by
  refine ⟨?_, ?_⟩
  · rw [typeName_set, typeName_set, hitem.typeName]
  · unfold Decoder.ofType
    rw [hitem.typeName, names]

theorem map {key value key' value' : Ty} (hkey : Same snapshot key key')
    (hvalue : Same snapshot value value') (keyNames : decoderName key = decoderName key')
    (valueNames : decoderName value = decoderName value') :
    Same snapshot (.map key value) (.map key' value') := by
  refine ⟨?_, ?_⟩
  · rw [typeName_map, typeName_map, hkey.typeName, hvalue.typeName]
  · unfold Decoder.ofType
    rw [hkey.typeName, hvalue.typeName, keyNames, valueNames]

end Same

/-! ## Unambiguous names -/

theorem decoderName_of_suffix {ty : Ty} {s : String} (h : suffix ty = .ok s) :
    decoderName ty = .ok ("to" ++ s) :=
  decoderName_eq_ok.mpr ⟨s, h, rfl⟩

theorem eraseOption_ne_option (ty inner : Ty) : ty.eraseOption ≠ .option inner := by
  induction ty with
  | option inside ih => exact ih
  | _ => simp [Ty.eraseOption]

section Unambiguous

variable {snapshot : Snapshot} {types : List Ty}

theorem Unambiguous.sameForm (unambiguous : Unambiguous snapshot types) {s t : Ty} (hs : s ∈ types)
    (ht : t ∈ types) {name : String} (hsname : suffix s = .ok name) (htname : suffix t = .ok name) :
    SameForm snapshot s t := by
  refine unambiguous s hs t ht ?_
  rw [decoderName_of_suffix hsname, decoderName_of_suffix htname]

/-- The second of two types may be taken without its options. -/
theorem same_of_bare (part_mem : ∀ ty ∈ types, ∀ part ∈ ty.parts, part ∈ types) {s t : Ty}
    (ht : t ∈ types) {name : String} (htname : suffix t = .ok name)
    (bare : ∀ u ∈ types, (∀ inner, u ≠ .option inner) → suffix u = .ok name → Same snapshot s u) :
    Same snapshot s t := by
  refine Same.of_eraseOption (bare _ ?_ (eraseOption_ne_option t) ?_)
  · exact part_mem t ht _ t.eraseOption_mem_parts
  · rw [suffix_eraseOption, htname]

/-- Where types of one decoder name are of one form, they are decoded alike, whichever of them gets
the function.  The induction goes through the first type; the second follows it, since the two are of
one form at every part. -/
theorem same_of_unambiguous_bare (part_mem : ∀ ty ∈ types, ∀ part ∈ ty.parts, part ∈ types)
    (unambiguous : Unambiguous snapshot types) {s t : Ty} (hs : s ∈ types) (ht : t ∈ types)
    (bare : ∀ inner, t ≠ .option inner) {name : String} (hsname : suffix s = .ok name)
    (htname : suffix t = .ok name) : Same snapshot s t := by
  have form := unambiguous.sameForm hs ht hsname htname
  induction s generalizing t name with
  | option inner ih =>
    -- The options of the first type go one by one; its name and its body stay.
    have hinner := part_mem _ hs inner inner.inner_mem_parts
    rw [suffix_option] at hsname
    have inside := ih hinner ht bare hsname htname (unambiguous.sameForm hinner ht hsname htname)
    refine ⟨?_, inside.body⟩
    rw [typeName_option, inside.typeName]
  | primitive kind =>
    cases t with
    | primitive kind' => exact Same.primitive hsname htname
    | option inner => exact absurd rfl (bare inner)
    | _ => exact absurd form.form (by simp [Form.ofType])
  | ref cls =>
    cases t with
    | ref cls' => exact Same.ref (Except.ok.inj (hsname.trans htname.symm))
    | option inner => exact absurd rfl (bare inner)
    | _ => exact absurd form.form (by simp [Form.ofType])
  | enum enumName values =>
    cases t with
    | enum enumName' values' =>
      exact Same.enum values values' (Except.ok.inj (hsname.trans htname.symm))
    | option inner => exact absurd rfl (bare inner)
    | _ => exact absurd form.form (by simp [Form.ofType])
  | record cls =>
    cases t with
    | record cls' =>
      have names := Except.ok.inj (hsname.trans htname.symm)
      exact Same.record ((String.append_left_inj _).mp names) (form.bodies cls cls' rfl rfl)
    | option inner => exact absurd rfl (bare inner)
    | _ => exact absurd form.form (by simp [Form.ofType])
  | set item ih =>
    cases t with
    | set item' =>
      have hitem := part_mem _ hs item item.item_mem_parts
      have hitem' := part_mem _ ht item' item'.item_mem_parts
      rcases suffix_set_eq_ok.mp hsname with ⟨inner, hinner, rfl⟩
      rcases suffix_set_eq_ok.mp htname with ⟨inner', hinner', same⟩
      rw [(String.append_right_inj _).mp same] at hinner'
      have items := same_of_bare part_mem hitem' hinner' fun u hu bareItem hname =>
        ih hitem hu bareItem hinner hname (unambiguous.sameForm hitem hu hinner hname)
      refine items.set ?_
      rw [decoderName_of_suffix hinner, decoderName_of_suffix hinner']
    | option inner => exact absurd rfl (bare inner)
    | _ => exact absurd form.form (by simp [Form.ofType])
  | map key value ihKey ihValue =>
    cases t with
    | map key' value' =>
      have hkey := part_mem _ hs key (Ty.key_mem_parts _ _)
      have hvalue := part_mem _ hs value (Ty.value_mem_parts _ _)
      have hkey' := part_mem _ ht key' (Ty.key_mem_parts _ _)
      have hvalue' := part_mem _ ht value' (Ty.value_mem_parts _ _)
      rcases suffix_map_eq_ok.mp hsname with ⟨first, hfirst, second, hsecond, rfl⟩
      rcases suffix_map_eq_ok.mp htname with ⟨first', hfirst', second', hsecond', same⟩
      -- The keys have one name, so what is left of the names of the maps is that of the values.
      have keyNames := form.keys key value key' value' rfl rfl
      rw [decoderName_of_suffix hfirst, decoderName_of_suffix hfirst'] at keyNames
      have sameFirst := (String.append_right_inj _).mp (Except.ok.inj keyNames)
      rw [← sameFirst] at same hfirst'
      rw [(String.append_right_inj _).mp same] at hsecond'
      have keys := same_of_bare part_mem hkey' hfirst' fun u hu bareKey hname =>
        ihKey hkey hu bareKey hfirst hname (unambiguous.sameForm hkey hu hfirst hname)
      have values := same_of_bare part_mem hvalue' hsecond' fun u hu bareValue hname =>
        ihValue hvalue hu bareValue hsecond hname (unambiguous.sameForm hvalue hu hsecond hname)
      refine keys.map values ?_ ?_
      · rw [decoderName_of_suffix hfirst, decoderName_of_suffix hfirst']
      · rw [decoderName_of_suffix hsecond, decoderName_of_suffix hsecond']
    | option inner => exact absurd rfl (bare inner)
    | _ => exact absurd form.form (by simp [Form.ofType])

theorem same_of_unambiguous (part_mem : ∀ ty ∈ types, ∀ part ∈ ty.parts, part ∈ types)
    (unambiguous : Unambiguous snapshot types) {s t : Ty} (hs : s ∈ types) (ht : t ∈ types)
    {name : String} (hsname : decoderName s = .ok name) (htname : decoderName t = .ok name) :
    Same snapshot s t := by
  rcases decoderName_eq_ok.mp hsname with ⟨suffix, hsuffix, rfl⟩
  rcases decoderName_eq_ok.mp htname with ⟨suffix', hsuffix', same⟩
  rw [(String.append_right_inj _).mp same] at hsuffix'
  exact same_of_bare part_mem ht hsuffix' fun u hu bare hname =>
    same_of_unambiguous_bare part_mem unambiguous hs hu bare hsuffix hname

end Unambiguous

/-! ## Types that are decoded alike are of one form -/

theorem ofType_map_eq_ok {snapshot : Snapshot} {key value : Ty} {d : Decoder}
    (h : Decoder.ofType snapshot (.map key value) = .ok d) :
    ∃ keyName valueName keyDecoder valueDecoder, typeName key = .ok keyName ∧
      typeName value = .ok valueName ∧ decoderName key = .ok keyDecoder ∧
      d = .map keyName valueName keyDecoder valueDecoder := by
  rcases Except.bind_eq_ok.mp h with ⟨keyName, hkeyName, h⟩
  rcases Except.bind_eq_ok.mp h with ⟨valueName, hvalueName, h⟩
  rcases Except.bind_eq_ok.mp h with ⟨keyDecoder, hkeyDecoder, h⟩
  rcases Except.bind_eq_ok.mp h with ⟨valueDecoder, _, h⟩
  exact ⟨keyName, valueName, keyDecoder, valueDecoder, hkeyName, hvalueName, hkeyDecoder,
    (Except.ok.inj h).symm⟩

/-- Maps that are decoded alike have one decoder of keys. -/
theorem decoderName_keys_of_same {snapshot : Snapshot} {key value key' value' : Ty} {d e : Decoder}
    (unbroken : key.Unbroken) (unbroken' : key'.Unbroken)
    (hd : Decoder.ofType snapshot (.map key value) = .ok d)
    (he : Decoder.ofType snapshot (.map key' value') = .ok e)
    (types : typeName (.map key value) = typeName (.map key' value')) (texts : d.text = e.text) :
    decoderName key = decoderName key' := by
  rcases ofType_map_eq_ok hd with ⟨k, v, kd, vd, hk, hv, hkd, rfl⟩
  rcases ofType_map_eq_ok he with ⟨k', v', kd', vd', hk', hv', hkd', rfl⟩
  have arguments : k ++ (", " ++ v) = k' ++ (", " ++ v') := by
    rw [typeName_map, typeName_map, hk, hv, hk', hv'] at types
    have names : "Map<" ++ k ++ ", " ++ v ++ ">" = "Map<" ++ k' ++ ", " ++ v' ++ ">" :=
      Except.ok.inj types
    -- The names may hold commas, so only what stands between the brackets is known to agree.
    have inside := (String.append_left_inj _).mp names
    rw [String.append_assoc, String.append_assoc, String.append_assoc, String.append_assoc] at inside
    exact (String.append_right_inj _).mp inside
  rw [hkd, hkd']
  exact congrArg Except.ok (Decoder.keyDecoder_eq_of_text_eq arguments
    (not_mem_decoderName unbroken hkd) (not_mem_decoderName unbroken' hkd') texts)

theorem sameForm_of_same {snapshot : Snapshot} {s t : Ty} {d e : Decoder}
    (unbroken : ∀ key value, s.eraseOption = .map key value → key.Unbroken)
    (unbroken' : ∀ key value, t.eraseOption = .map key value → key.Unbroken)
    (hd : Decoder.ofType snapshot s = .ok d) (he : Decoder.ofType snapshot t = .ok e)
    (same : Same snapshot s t) : SameForm snapshot s t := by
  have texts : d.text = e.text := by
    have body := same.body
    rw [hd, he] at body
    exact Except.ok.inj body
  refine ⟨?_, ?_, ?_⟩
  · rw [← form_ofType hd, ← form_ofType he]
    exact Decoder.form_eq_of_text_eq texts
  · intro key value key' value' hs ht
    have types := same.typeName
    rw [← typeName_eraseOption s, ← typeName_eraseOption t, hs, ht] at types
    rw [← ofType_eraseOption, hs] at hd
    rw [← ofType_eraseOption, ht] at he
    exact decoderName_keys_of_same (unbroken key value hs) (unbroken' key' value' ht) hd he types
      texts
  · intro cls cls' hs ht
    have body := same.body
    rw [← ofType_eraseOption snapshot s, ← ofType_eraseOption snapshot t, hs, ht] at body
    exact body

/-! ## Functions of their own -/

/-- The function of a type, the only one of its name, has the type's own Java type and body. -/
def Owns (snapshot : Snapshot) (entries : List TypeEntry) (ty : Ty) : Prop :=
  ∃ e ∈ entries, decoderName ty = .ok e.methodName ∧
    (∀ other ∈ entries, other.methodName = e.methodName → other = e) ∧
    typeName ty = .ok e.name ∧
    (Decoder.ofType snapshot ty).map Decoder.text = .ok e.decoder.text

section Owning

variable {snapshot : Snapshot} {types : List Ty} {entries : List TypeEntry}

/-- Each type owns its function if types of one decoder name are decoded alike. -/
theorem owns_of_same (serves : Serves snapshot types entries)
    (same : ∀ s ∈ types, ∀ t ∈ types, ∀ name, decoderName s = .ok name →
      decoderName t = .ok name → Same snapshot s t) {ty : Ty} (hty : ty ∈ types) :
    Owns snapshot entries ty := by
  rcases serves.served ty hty with ⟨e, he, hname⟩
  -- The function was made for the first type of the name.
  rcases serves.origin e he with ⟨first, hfirst, hfirstName, htype, hdecoder⟩
  have alike := same first hfirst ty hty _ hfirstName hname
  refine ⟨e, he, hname, ?_, ?_, ?_⟩
  · intro other hother names
    exact List.inj_on_of_nodup_map serves.distinct hother he names
  · rw [← alike.typeName, htype]
  · rw [← alike.body, hdecoder]
    rfl

/-- Types that own one function are decoded alike. -/
theorem same_of_owns {s t : Ty} {name : String} (hs : Owns snapshot entries s)
    (ht : Owns snapshot entries t) (hsname : decoderName s = .ok name)
    (htname : decoderName t = .ok name) : Same snapshot s t := by
  rcases hs with ⟨e, he, hename, only, hetype, hebody⟩
  rcases ht with ⟨f, hf, hfname, _, hftype, hfbody⟩
  have names : f.methodName = e.methodName :=
    Except.ok.inj ((hfname.symm.trans htname).trans (hsname.symm.trans hename))
  have shared := only f hf names
  subst shared
  exact ⟨hetype.trans hftype.symm, hebody.trans hfbody.symm⟩

/-- A type that owns its function has a decoder. -/
theorem ofType_of_owns {ty : Ty} (h : Owns snapshot entries ty) :
    ∃ d, Decoder.ofType snapshot ty = .ok d := by
  rcases h with ⟨e, _, _, _, _, hbody⟩
  rcases Except.map_eq_ok.mp hbody with ⟨d, hd, _⟩
  exact ⟨d, hd⟩

end Owning

/-- Each type owns its function exactly if the types of one decoder name are of one form. -/
theorem owns_iff_unambiguous {c : Config} {document : Json} {schema : Schema} {disk : Disk}
    {p : Progress} {entries : List TypeEntry} (parsed : Schema.ofDocument document = .ok schema)
    (completed : (Run.classes c schema).Completes (Progress.start disk) () p)
    (declared : typeEntries p.registry.freeze.2 = .ok entries) :
    ∃ types, decodedTypes p.registry.freeze.2 = .ok types ∧
      ((∀ ty ∈ types, Owns p.registry.freeze.2 entries ty) ↔
        Unambiguous p.registry.freeze.2 types) := by
  have closed := Run.closed_of_classes parsed completed
  rcases serves_of_typeEntries declared with ⟨types, htypes, serves, _⟩
  have part_mem : ∀ ty ∈ types, ∀ part ∈ ty.parts, part ∈ types := fun ty hty part hpart =>
    part_mem_decodedTypes closed htypes hty hpart
  refine ⟨types, htypes, ?_, ?_⟩
  · -- Both types own the one function of the name, whose body tells the form.
    intro owns s hs t ht names
    rcases owns s hs with ⟨e, he, hname, facts⟩
    have same := same_of_owns ⟨e, he, hname, facts⟩ (owns t ht) hname (names.symm.trans hname)
    rcases ofType_of_owns (owns s hs) with ⟨d, hd⟩
    rcases ofType_of_owns (owns t ht) with ⟨d', hd'⟩
    -- Only the types of the snapshot can be maps, and the document spells them on one line.
    have unbroken : ∀ ty ∈ types, ∀ key value, ty.eraseOption = .map key value → key.Unbroken := by
      intro ty hty key value herase
      rcases mem_or_record_of_mem_decodedTypes htypes hty with hold | ⟨cls, rfl⟩
      · have bare := closed.part_mem ty hold _ ty.eraseOption_mem_parts
        rw [herase] at bare
        exact (Run.unbroken_of_mem_types parsed completed bare).1
      · simp [Ty.eraseOption] at herase
    exact sameForm_of_same (unbroken s hs) (unbroken t ht) hd hd' same
  · -- The function of the name was made for some type, which is decoded as this one is.
    intro unambiguous ty hty
    refine owns_of_same serves ?_ hty
    intro s hs t ht name hsname htname
    exact same_of_unambiguous part_mem unambiguous hs ht hsname htname

theorem owns_iff_unambiguous_events :
    ∃ schema p types entries, Schema.ofDocument Sample.events = .ok schema ∧
      (Run.classes Sample.config schema).Completes (Progress.start Sample.disk) () p ∧
      typeEntries p.registry.freeze.2 = .ok entries ∧
      decodedTypes p.registry.freeze.2 = .ok types ∧
      ((∀ ty ∈ types, Owns p.registry.freeze.2 entries ty) ↔
        Unambiguous p.registry.freeze.2 types) := by
  rcases Option.isSome_iff_exists.mp Sample.declared?_events with ⟨⟨schema, p, _, entries⟩, h⟩
  rcases Sample.of_declared?_eq_some h with ⟨parsed, completed, _, declared⟩
  rcases owns_iff_unambiguous parsed completed declared with ⟨types, decoded, owned⟩
  exact ⟨schema, p, types, entries, parsed, completed, declared, decoded, owned⟩

end Shared

/-! ## A class and an enumeration of one name -/

namespace Sample

/-- A class and an enumeration are both called `vm`, and the class refers to both. -/
def collision : Json :=
  .object [
    ("enums", .object [("vm", .list [.text "a"])]),
    ("classes", .list [
      .object [
        ("name", .text "vm"),
        ("fields", .list [typed "state" "enum<vm>", typed "self" "ref<vm>"])]])]

set_option maxRecDepth 20000 in
/-- The reference needs a function, and the only one of its name has another Java type. -/
theorem declared?_collision :
    ((declared? collision).any fun (_, _, types, entries) =>
      types.contains (.ref "vm") && entries.all fun e => e.methodName ≠ "toVm" || e.name ≠ "Vm") =
    true := by
  decide +kernel

end Sample

namespace Shared

/-- A type of a parsed document does not own its function. -/
theorem not_owns_of_collision :
    ∃ schema p types entries, Schema.ofDocument Sample.collision = .ok schema ∧
      (Run.classes Sample.config schema).Completes (Progress.start Sample.disk) () p ∧
      decodedTypes p.registry.freeze.2 = .ok types ∧
      typeEntries p.registry.freeze.2 = .ok entries ∧
      ∃ ty ∈ types, ¬Owns p.registry.freeze.2 entries ty := by
  rcases (Option.any_eq_true _ _).mp Sample.declared?_collision with
    ⟨⟨schema, p, types, entries⟩, h, facts⟩
  rcases Sample.of_declared?_eq_some h with ⟨parsed, completed, decoded, declared⟩
  rcases Bool.and_eq_true_iff.mp facts with ⟨there, others⟩
  refine ⟨schema, p, types, entries, parsed, completed, decoded, declared, .ref "vm",
    List.contains_iff_mem.mp there, ?_⟩
  rintro ⟨e, he, hname, _, htype, _⟩
  have spelled : "to" ++ Naming.classCase "vm" = "toVm" := by decide +kernel
  have shown : Naming.classCase "vm" = "Vm" := by decide +kernel
  have methodName : "toVm" = e.methodName := spelled ▸ Except.ok.inj hname
  have name : "Vm" = e.name := shown ▸ Except.ok.inj htype
  have other := List.all_eq_true.mp others e he
  simp [← methodName, ← name] at other

end Shared
end ClientBindings
