import ClientBindings.Proofs.Outcome

/-!
# Completion — what a run has done that completed

A run that completes has completed every one of its steps.  So the sources of all classes were
generated and written, then everything was declared, and the shared sources and the licence were
written, whatever the templates are and wherever the files went.

* `Run.Wrote` — progress of a run whose files are on its disk;
* `Run.Wrote.of_writeFile`, `of_classFile`, `of_templateFile`, `of_licence` — what a step adds that
  completes;
* `Run.Completion`, `Run.exists_completion` — how a run came to complete;
* `Run.finished?` — a run over a document, as far as its result goes.
-/

namespace ClientBindings

namespace Disk

variable {d e : Disk} {p : Path} {text : String} {before : Table String}
  {files : List (Path × String)}

/-- A file that was written can be read at its path, unless a folder has come in its place. -/
theorem exists_read_of_holds (h : d.Holds before files) {f : Path × String} (hf : f ∈ files)
    (takes : d.Takes f.1) : ∃ place last, d.place f.1 = .ok place ∧
      d.lastText files place.text = some last ∧ d.find? place = some (.file last) := by
  rcases takes with ⟨place, hplace, free⟩
  have found : (d.lastText files place.text).isSome = true := by
    simp only [lastText, Option.isSome_map, List.find?_isSome, List.mem_reverse]
    exact ⟨f, hf, by simp [hplace, Except.toOption]⟩
  rcases Option.isSome_iff_exists.mp found with ⟨last, hlast⟩
  have there : d.files.get? place.text = some last := by
    rw [h.content, hlast]
    rfl
  exact ⟨place, last, hplace, hlast, find?_eq_file_iff.mpr ⟨free, there⟩⟩

theorem takes_of_write (h : d.write p text = .ok e) : e.Takes p := by
  rcases write_eq_ok.mp h with ⟨place, hplace, free, _⟩
  exact takes_of_folders_eq (folders_of_write h) ⟨place, hplace, free⟩

/-- No folder is made in the place of a file. -/
theorem takes_of_make (h : d.Holds before files) (made : d.make p = .ok e) {f : Path × String}
    (hf : f ∈ files) (takes : d.Takes f.1) : e.Takes f.1 := by
  rcases exists_read_of_holds h hf takes with ⟨place, last, hplace, _, file⟩
  have kept := find?_file_of_make made file
  refine ⟨place, place_of_extends (extends_of_make made) hplace, ?_⟩
  simp [kept]

end Disk

namespace Run

/-- Progress of a run whose files are on its disk. -/
structure Wrote (disk : Disk) (files : List (Path × String)) (frozen : Bool) (p : Progress) :
    Prop where
  leaves : Leaves disk files frozen p
  takes : ∀ f ∈ files, p.disk.Takes f.1

variable {α : Type} {c : Config} {schema : Schema} {disk : Disk} {files : List (Path × String)}
  {frozen : Bool} {p q : Progress}

/-! ## Steps -/

theorem ofExcept_completes_iff {result : Except Fault α} {a : α} :
    (ofExcept result).Completes p a q ↔ result = .ok a ∧ p = q :=
  Prod.mk_inj

theorem ofDisk_completes_iff {result : Except DiskFault α} {a : α} :
    (ofDisk result).Completes p a q ↔ result = .ok a ∧ p = q := by
  rw [ofDisk, ofExcept_completes_iff]
  cases result with
  | ok b => simp [Except.mapError]
  | error fault => simp [Except.mapError]

theorem get_completes {here : Progress} (h : (get : Run Progress).Completes p here q) :
    p = here ∧ p = q :=
  ⟨Except.ok.inj (congrArg Prod.fst h), congrArg Prod.snd h⟩

theorem modify_completes {change : Progress → Progress} {u : Unit}
    (h : (modify change : Run Unit).Completes p u q) : change p = q :=
  congrArg Prod.snd h

theorem not_completes_throw {fault : Fault} {a : α} : ¬(throw fault : Run α).Completes p a q := by
  intro h
  have failed : (Except.error fault : Except Fault α) = .ok a := congrArg Prod.fst h
  cases failed

/-! ### What a step leaves alone -/

theorem alike_of_report {level : Level} {part text : String} {u : Unit}
    (h : (report level part text).Completes p u q) : Alike p q := by
  have after : p.report [⟨level, part, text⟩] = q := congrArg Prod.snd h
  rw [← after]
  exact ⟨rfl, rfl, rfl⟩

/-- In an open registry an emission that completes comes to the value it settles to. -/
theorem emit_completes_settled (opened : p.registry.frozen = false) {m : Emission α} {a : α}
    (h : (emit m).Completes p a q) : m.settled = .ok a ∧ Alike p q := by
  rcases Emission.settle_of_open opened m with ⟨same, stays⟩
  have outcome : (p.registry.settle m).result = .ok a := congrArg Prod.fst h
  have after : ((emit m).run.run p).run.2 = q := congrArg Prod.snd h
  refine ⟨same.symm.trans outcome, ?_⟩
  rw [← after]
  exact ⟨rfl, rfl, stays.trans opened.symm⟩

/-- The text of a template is found without touching anything. -/
theorem templateText_completes {template text : String} {scope : Shared.Scope}
    (h : (templateText c template scope).Completes p text q) :
    p = q ∧ (c.templates = none → fillTemplate template scope = .ok text) := by
  unfold templateText at h
  cases hgiven : c.templates with
  | none =>
    rw [hgiven] at h
    rcases ofExcept_completes_iff.mp h with ⟨filled, same⟩
    exact ⟨same, fun _ => filled⟩
  | some given =>
    rw [hgiven] at h
    rcases completes_bind.mp h with ⟨here, p₁, hget, hfill⟩
    exact ⟨(get_completes hget).2.trans (ofExcept_completes_iff.mp hfill).2, by simp⟩

namespace Wrote

theorem start (disk : Disk) : Wrote disk [] false (Progress.start disk) :=
  ⟨(stage_start disk).leaves, by simp⟩

theorem of_alike (wrote : Wrote disk files frozen p) (same : Alike p q) :
    Wrote disk files frozen q := by
  refine ⟨leaves_of_alike wrote.leaves same, ?_⟩
  rw [same.disk]
  exact wrote.takes

/-! ## Files -/

theorem of_writeFile (wrote : Wrote disk files frozen p) {folder path : Path} {name text : String}
    (h : (writeFile folder name text).Completes p path q) :
    Wrote disk (files ++ [(folder.child name, text)]) frozen q := by
  rcases completes_bind.mp h with ⟨here, p₁, hget, h⟩
  rcases completes_bind.mp h with ⟨d, p₂, hdisk, h⟩
  rcases completes_bind.mp h with ⟨u, p₃, hmodify, hreturn⟩
  rcases get_completes hget with ⟨rfl, rfl⟩
  rcases ofDisk_completes_iff.mp hdisk with ⟨written, rfl⟩
  rcases completes_pure.mp hreturn with ⟨_, rfl⟩
  rw [← modify_completes hmodify]
  refine ⟨⟨?_, ?_, wrote.leaves.frozen⟩, ?_⟩
  · exact Disk.holds_of_write wrote.leaves.holds written
  · simp [wrote.leaves.written]
  · intro f hf
    rcases List.mem_append.mp hf with hf | hf
    · exact Disk.takes_of_folders_eq (Disk.folders_of_write written) (wrote.takes f hf)
    · rw [List.mem_singleton.mp hf]
      exact Disk.takes_of_write written

theorem of_makeFolder (wrote : Wrote disk files frozen p) {folder : Path} {u : Unit}
    (h : (makeFolder folder).Completes p u q) : Wrote disk files frozen q := by
  rcases completes_bind.mp h with ⟨here, p₁, hget, h⟩
  rcases completes_bind.mp h with ⟨d, p₂, hdisk, hmodify⟩
  rcases get_completes hget with ⟨rfl, rfl⟩
  rcases ofDisk_completes_iff.mp hdisk with ⟨made, rfl⟩
  rw [← modify_completes hmodify]
  have held := wrote.leaves.holds
  refine ⟨⟨?_, wrote.leaves.written, wrote.leaves.frozen⟩, ?_⟩
  · exact Disk.holds_of_extends (Disk.extends_of_make made) (Disk.files_of_make made) held
  · intro f hf
    exact Disk.takes_of_make held made hf (wrote.takes f hf)

/-- The source of a class that was written is the one that it has in an open registry. -/
theorem of_classFile (wrote : Wrote disk files false p) {cls : ApiClass} {u : Unit}
    (h : (classFile c (c.settings schema) cls).Completes p u q) :
    ∃ source, sourceOf c schema cls = .ok source ∧
      Wrote disk (files ++ [sourceFile c source]) false q := by
  rcases completes_bind.mp h with ⟨source, p₁, hemit, h⟩
  rcases completes_bind.mp h with ⟨path, p₂, hwrite, hreport⟩
  rcases emit_completes_settled wrote.leaves.frozen hemit with ⟨settled, same⟩
  refine ⟨source, settled, ?_⟩
  exact ((wrote.of_alike same).of_writeFile hwrite).of_alike (alike_of_report hreport)

theorem of_forM (wrote : Wrote disk files false p) {classes : List ApiClass} {u : PUnit}
    (h : (classes.forM (classFile c (c.settings schema))).Completes p u q) :
    ∃ sources, classes.mapM (sourceOf c schema) = .ok sources ∧
      Wrote disk (files ++ sources.map (sourceFile c)) false q := by
  induction classes generalizing p files with
  | nil =>
    rcases completes_pure.mp h with ⟨_, rfl⟩
    exact ⟨[], rfl, by simpa using wrote⟩
  | cons cls rest ih =>
    rcases completes_bind.mp h with ⟨v, p₁, hfile, hrest⟩
    rcases wrote.of_classFile hfile with ⟨source, hsource, first⟩
    rcases ih first hrest with ⟨sources, hsources, others⟩
    refine ⟨source :: sources, ?_, by simpa using others⟩
    rw [List.mapM_cons, hsource, hsources]
    rfl

theorem of_classes {u : Unit} (h : (classes c schema).Completes (Progress.start disk) u q) :
    ∃ sources, schema.classes.mapM (sourceOf c schema) = .ok sources ∧
      Wrote disk (sources.map (sourceFile c)) false q := by
  rcases completes_bind.mp h with ⟨name, p₁, hkinds, h⟩
  rcases completes_bind.mp h with ⟨v, p₂, hfiles, hreport⟩
  have open₁ := (start disk).of_alike (emit_completes_settled rfl hkinds).2
  rcases open₁.of_forM hfiles with ⟨sources, hsources, written⟩
  exact ⟨sources, hsources, by simpa using written.of_alike (alike_of_report hreport)⟩

/-! ## Shared sources -/

theorem of_freeze (wrote : Wrote disk files frozen p) {snapshot : Snapshot}
    (h : freeze.Completes p snapshot q) :
    snapshot = p.registry.freeze.2 ∧ Wrote disk files true q := by
  have taken : p.registry.freeze.2 = snapshot := Except.ok.inj (congrArg Prod.fst h)
  have after : (freeze.run.run p).run.2 = q := congrArg Prod.snd h
  refine ⟨taken.symm, ?_⟩
  rw [← after]
  exact ⟨⟨wrote.leaves.holds, wrote.leaves.written, rfl⟩, wrote.takes⟩

theorem of_templateFile (wrote : Wrote disk files frozen p) {template file : String}
    {scope : Shared.Scope} {u : Unit}
    (h : (templateFile c template file scope).Completes p u q) :
    ∃ text, (c.templates = none → fillTemplate template scope = .ok text) ∧
      Wrote disk (files ++ [(c.classDir.child file, text)]) frozen q := by
  rcases completes_bind.mp h with ⟨text, p₁, htext, h⟩
  rcases completes_bind.mp h with ⟨path, p₂, hwrite, hreport⟩
  rcases templateText_completes htext with ⟨rfl, filled⟩
  exact ⟨text, filled, (wrote.of_writeFile hwrite).of_alike (alike_of_report hreport)⟩

end Wrote

/-- The copy of a licence file, or nothing. -/
def IsCopy (c : Config) (copies : List (Path × String)) : Prop :=
  copies = [] ∨ ∃ text, copies = [(c.resourcesDir.child "LICENSE", text)]

namespace Wrote

theorem of_licence (wrote : Wrote disk files frozen p) {u : Unit}
    (h : (licence c).Completes p u q) :
    ∃ copies, IsCopy c copies ∧ Wrote disk (files ++ copies) frozen q := by
  unfold licence at h
  cases hfile : c.licenceFile with
  | none =>
    rw [hfile] at h
    rcases completes_pure.mp h with ⟨_, rfl⟩
    exact ⟨[], Or.inl rfl, by simpa using wrote⟩
  | some file =>
    rw [hfile] at h
    rcases completes_bind.mp h with ⟨v, p₁, hmake, h⟩
    rcases completes_bind.mp h with ⟨here, p₂, hget, h⟩
    rcases get_completes hget with ⟨rfl, rfl⟩
    dsimp only at h
    split at h
    · rcases completes_bind.mp h with ⟨w, p₃, hthrow, _⟩
      exact absurd hthrow not_completes_throw
    · rcases completes_bind.mp h with ⟨text, p₃, hread, h⟩
      rcases completes_bind.mp h with ⟨path, p₄, hwrite, hreturn⟩
      rcases ofDisk_completes_iff.mp hread with ⟨_, rfl⟩
      rcases completes_pure.mp hreturn with ⟨_, rfl⟩
      exact ⟨_, Or.inr ⟨text, rfl⟩, (wrote.of_makeFolder hmake).of_writeFile hwrite⟩

end Wrote

/-- The files of the shared sources, which built-in templates fill with the declarations, and the
copy of the licence file. -/
structure SharedParts (c : Config) (schema : Schema) (summary : Summary) where
  /-- Text of the source that declares what the classes share. -/
  types : String
  /-- Text of the source that lists the releases. -/
  releases : String
  copies : List (Path × String)
  filledTypes : c.templates = none →
    fillTemplate "Types.java.jinja" (sharedScope c ++ summary.declarations.members) = .ok types
  filledReleases : c.templates = none → ∃ scope, releasesScope c schema = .ok scope ∧
    fillTemplate "APIVersion.java.jinja" scope = .ok releases
  copied : IsCopy c copies

namespace SharedParts

variable {summary : Summary}

def sources (parts : SharedParts c schema summary) : List (Path × String) :=
  [(c.classDir.child "Types.java", parts.types), (c.classDir.child "APIVersion.java", parts.releases)]

end SharedParts

theorem Wrote.of_shared (wrote : Wrote disk files false p) {summary : Summary}
    (h : (shared c schema).Completes p summary q) :
    summary.snapshot = p.registry.freeze.2 ∧
      Shared.declarations p.registry.freeze.2 schema.errors = .ok summary.declarations ∧
      ∃ parts : SharedParts c schema summary,
        Wrote disk (files ++ parts.sources ++ parts.copies) true q := by
  rcases completes_bind.mp h with ⟨snapshot, p₁, hfreeze, h⟩
  rcases completes_bind.mp h with ⟨d, p₂, hdeclared, h⟩
  rcases completes_bind.mp h with ⟨u, p₃, hreport, h⟩
  rcases completes_bind.mp h with ⟨v, p₄, htypes, h⟩
  rcases completes_bind.mp h with ⟨scope, p₅, hscope, h⟩
  rcases completes_bind.mp h with ⟨w, p₆, hreleases, h⟩
  rcases completes_bind.mp h with ⟨x, p₇, hlicence, hreturn⟩
  rcases ofExcept_completes_iff.mp hdeclared with ⟨declared, rfl⟩
  rcases ofExcept_completes_iff.mp hscope with ⟨inScope, rfl⟩
  rcases completes_pure.mp hreturn with ⟨rfl, rfl⟩
  rcases wrote.of_freeze hfreeze with ⟨taken, frozen⟩
  rcases (frozen.of_alike (alike_of_report hreport)).of_templateFile htypes with
    ⟨types, filledTypes, first⟩
  rcases first.of_templateFile hreleases with ⟨releases, filledReleases, second⟩
  rcases second.of_licence hlicence with ⟨copies, copied, written⟩
  refine ⟨taken, taken ▸ declared, ?_⟩
  refine ⟨⟨types, releases, copies, filledTypes, ?_, copied⟩, ?_⟩
  · intro builtIn
    exact ⟨scope, inScope, filledReleases builtIn⟩
  · simpa [SharedParts.sources] using written

/-! ## Whole runs -/

/-- How a run came to complete. -/
structure Completion (c : Config) (schema : Schema) (summary : Summary) where
  /-- The disk with the folder of the sources. -/
  disk : Disk
  /-- Progress behind the classes. -/
  collected : Progress
  sources : List Source.ClassSource
  shared : SharedParts c schema summary
  classes : (Run.classes c schema).Completes (Progress.start disk) () collected
  generated : schema.classes.mapM (sourceOf c schema) = .ok sources
  snapshot : summary.snapshot = collected.registry.freeze.2
  declared : Shared.declarations collected.registry.freeze.2 schema.errors = .ok summary.declarations
  wrote : Wrote disk (sources.map (sourceFile c) ++ shared.sources ++ shared.copies) true
    (run c schema).progress

theorem exists_all_of_run {summary : Summary} (h : (run c schema).result = .ok summary) :
    ∃ disk q, (all c schema).Completes (Progress.start disk) summary q ∧
      Alike q (run c schema).progress := by
  unfold run at h ⊢
  cases made : c.given.make c.classDir with
  | error fault => simp [made] at h
  | ok disk =>
    simp only [made] at h ⊢
    rcases ended : (all c schema).run.run (Progress.start disk) with ⟨result, q⟩
    cases result with
    | error fault => simp [ended] at h
    | ok other =>
      simp only [ended] at h ⊢
      rw [← Except.ok.inj h]
      exact ⟨disk, q, ended, rfl, rfl, rfl⟩

theorem exists_completion {summary : Summary} (h : (run c schema).result = .ok summary) :
    Nonempty (Completion c schema summary) := by
  rcases exists_all_of_run h with ⟨disk, q, completed, same⟩
  rcases completes_bind.mp completed with ⟨u, p, hclasses, hshared⟩
  rcases Wrote.of_classes hclasses with ⟨sources, generated, written⟩
  rcases written.of_shared hshared with ⟨snapshot, declared, shared, wrote⟩
  exact ⟨disk, p, sources, shared, hclasses, generated, snapshot, declared, wrote.of_alike same⟩

/-- The schema of a document, and what its run hands back if it completes. -/
def finished? (c : Config) (document : Json) : Option (Schema × Summary) := do
  let schema ← (Schema.ofDocument document).toOption
  let summary ← (run c schema).result.toOption
  return (schema, summary)

theorem of_finished?_eq_some {document : Json} {summary : Summary}
    (h : finished? c document = some (schema, summary)) :
    Schema.ofDocument document = .ok schema ∧ (run c schema).result = .ok summary := by
  rcases Option.bind_eq_some_iff.mp h with ⟨parsed, hparsed, h⟩
  rcases Option.bind_eq_some_iff.mp h with ⟨handed, hhanded, h⟩
  rcases Prod.mk.inj (Option.some.inj h) with ⟨rfl, rfl⟩
  exact ⟨Except.eq_ok_of_toOption hparsed, Except.eq_ok_of_toOption hhanded⟩

end Run
end ClientBindings
