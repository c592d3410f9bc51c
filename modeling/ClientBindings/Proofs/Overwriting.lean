import ClientBindings.Proofs.Completion
import Mathlib.Data.List.Pairwise

/-!
# Overwriting — when every source keeps its file

A run writes one file after the other, and a file that is written twice holds the later text.  So a
run keeps all its sources exactly if the names of their files lead to different places, and says so
exactly if the paths are different, too.  The name of a file is that of its class in the spelling of
sources, which is the same for some different names: `vm_disk` and `vmDisk` are both `VmDisk`.

* `Disk.nameOf?` — the name under which a disk has what a path leads to;
* `Disk.Keeps` — a disk with files of their own, with the given texts;
* `Run.KeepsSources` — what a run should leave of the sources of its classes and the shared ones;
* `Run.keepsSources_iff` — when it does;
* `Run.not_keepsSources_of_alike` — two classes of different names that share a file.

Names with slashes lead to other folders.  For all others it is enough to compare the names.
-/

namespace ClientBindings

/-! ## Paths -/

namespace Path

/-- A path with a component at its end is one step below its folder. -/
theorem folder_below {p : Path} {name : String} (last : p.parts.getLast? = some name) :
    p.folder.below name = p := by
  have parts : p.parts.dropLast ++ [name] = p.parts := List.dropLast_append_getLast? name last
  simp [folder, below, parts]

theorem rootOf_of_not_mem {cs : List Char} (h : '/' ∉ cs) : rootOf cs = "" := by
  unfold rootOf
  split
  · simp at h
  · simp at h
  · simp at h
  · rfl

/-- A name without slashes is one component. -/
theorem child_of_not_mem {folder : Path} {name : String} (plain : '/' ∉ name.toList) :
    folder.child (name ++ Disk.extension) = folder.below (name ++ Disk.extension) := by
  have inside : '/' ∉ (name ++ Disk.extension).toList := by
    rw [String.toList_append, List.mem_append, not_or]
    exact ⟨plain, by decide⟩
  have filled : name ++ Disk.extension ≠ "" := Disk.append_extension_ne (by decide)
  have named : name ++ Disk.extension ≠ "." := Disk.append_extension_ne (by decide)
  have single : ofText (name ++ Disk.extension) = ⟨"", [name ++ Disk.extension]⟩ := by
    rw [ofText, rootOf_of_not_mem inside, List.splitOn_eq_singleton inside]
    simp [filled, named]
  rw [child, single]
  rfl

end Path

namespace Disk

variable {d : Disk} {p place : Path} {before : Table String} {files : List (Path × String)}

/-- The name under which a disk has what a path leads to. -/
def nameOf? (d : Disk) (p : Path) : Option String :=
  (d.place p).toOption.map Path.text

theorem nameOf?_of_place (h : d.place p = .ok place) : d.nameOf? p = some place.text := by
  simp [nameOf?, h, Except.toOption]

/-- Paths that lead to different places. -/
def Apart (d : Disk) (p q : Path) : Prop :=
  d.nameOf? p ≠ d.nameOf? q

instance (d : Disk) : Std.Symm fun f g : Path × String => d.Apart f.1 g.1 :=
  ⟨fun _ _ apart => Ne.symm apart⟩

/-- Files of their own, each with its text. -/
structure Keeps (d : Disk) (files : List (Path × String)) : Prop where
  read : ∀ f ∈ files, d.read f.1 = .ok f.2
  apart : files.Pairwise fun f g => d.Apart f.1 g.1

/-- A file that no other one shares its place with holds its text. -/
theorem read_of_holds (h : d.Holds before files) {f : Path × String} (hf : f ∈ files)
    (takes : d.Takes f.1) (alone : ∀ g ∈ files, g ≠ f → d.Apart g.1 f.1) :
    d.read f.1 = .ok f.2 := by
  rcases exists_read_of_holds h hf takes with ⟨place, last, hplace, hlast, file⟩
  rcases Option.map_eq_some_iff.mp hlast with ⟨g, found, rfl⟩
  have there : g ∈ files := List.mem_reverse.mp (List.mem_of_find?_eq_some found)
  have named : d.nameOf? g.1 = some place.text := by
    simpa [nameOf?] using List.find?_some found
  have same : g = f := by
    by_contra other
    exact alone g there other (named.trans (nameOf?_of_place hplace).symm)
  rw [← same] at hplace ⊢
  exact read_eq_ok.mpr ⟨place, hplace, file⟩

theorem keeps_of_holds {others : List (Path × String)} (h : d.Holds before (files ++ others))
    (takes : ∀ f ∈ files, d.Takes f.1) (apart : files.Pairwise fun f g => d.Apart f.1 g.1)
    (spared : ∀ f ∈ files, ∀ g ∈ others, d.Apart g.1 f.1) : d.Keeps files := by
  refine ⟨?_, apart⟩
  intro f hf
  apply read_of_holds h (List.mem_append_left _ hf) (takes f hf)
  intro g hg other
  rcases List.mem_append.mp hg with hg | hg
  · exact apart.forall hg hf other
  · exact spared f hf g hg

/-- The places of two files of one folder differ as far as their names do. -/
theorem exists_front_of_places {place' : Path} {name name' : String}
    (forward : name ≠ "..") (forward' : name' ≠ "..") (h : d.place (p.below name) = .ok place)
    (h' : d.place (p.below name') = .ok place') :
    ∃ front, place.text = front ++ name ∧ place'.text = front ++ name' := by
  have last (other : String) : (p.below other).parts.getLast? = some other := by
    simp [Path.below]
  rcases exists_below_of_place (last name) forward h with ⟨here, followed, rfl⟩
  rcases exists_below_of_place (last name') forward' h' with ⟨here', followed', rfl⟩
  have same : here' = here := by
    simp only [Path.below, Path.start, List.dropLast_concat] at followed followed'
    exact Except.ok.inj (followed'.symm.trans followed)
  rcases exists_front_below here with ⟨front, text⟩
  exact ⟨front, text name, same ▸ text name'⟩

end Disk

namespace Run

/-! ## Names of sources -/

/-- Names of the sources of a schema, in the order in which they are written. -/
def sourceNames (schema : Schema) : List String :=
  schema.classes.map (fun cls => Naming.classCase cls.name.display) ++ ["Types", "APIVersion"]

/-- Path of the source of a name. -/
def sourcePath (c : Config) (name : String) : Path :=
  c.classDir.child (name ++ Disk.extension)

/-- Two names lead to different files, and the paths say so. -/
structure LeadApart (c : Config) (d : Disk) (first second : String) : Prop where
  text : (sourcePath c first).text ≠ (sourcePath c second).text
  place : d.Apart (sourcePath c first) (sourcePath c second)

variable {c : Config} {schema : Schema} {summary : Summary} {d : Disk}

/-- Names without slashes lead to different files unless they are the same. -/
theorem leadApart_iff {first second : String} (plain : '/' ∉ first.toList)
    (plain' : '/' ∉ second.toList) (takes : d.Takes (sourcePath c first))
    (takes' : d.Takes (sourcePath c second)) : LeadApart c d first second ↔ first ≠ second := by
  constructor
  · rintro ⟨text, _⟩ rfl
    exact text rfl
  · intro other
    have named : first ++ Disk.extension ≠ second ++ Disk.extension := fun same =>
      other ((String.append_left_inj Disk.extension).mp same)
    have path : sourcePath c first = c.classDir.below (first ++ Disk.extension) :=
      Path.child_of_not_mem plain
    have path' : sourcePath c second = c.classDir.below (second ++ Disk.extension) :=
      Path.child_of_not_mem plain'
    rw [path] at takes
    rw [path'] at takes'
    constructor
    · rcases Disk.exists_front_below c.classDir with ⟨front, text⟩
      rw [path, path', text, text]
      exact fun same => named ((String.append_right_inj front).mp same)
    · rcases takes with ⟨place, hplace, _⟩
      rcases takes' with ⟨place', hplace', _⟩
      have forward (name : String) : name ++ Disk.extension ≠ ".." :=
        Disk.append_extension_ne (by decide)
      rcases Disk.exists_front_of_places (forward first) (forward second) hplace hplace' with
        ⟨front, text, text'⟩
      rw [path, path', Disk.Apart, Disk.nameOf?_of_place hplace, Disk.nameOf?_of_place hplace',
        text, text']
      intro same
      exact named ((String.append_right_inj front).mp (Option.some.inj same))

/-! ## The copy of the licence -/

/-- The path of a source ends like the name of one. -/
theorem exists_text_sourcePath (c : Config) (name : String) :
    ∃ start, (sourcePath c name).text = start ++ Disk.extension := by
  rcases Disk.exists_getLast?_parts_child c.classDir name with ⟨start, last⟩
  have path : (sourcePath c name).folder.below (start ++ Disk.extension) = sourcePath c name :=
    Path.folder_below last
  rcases Disk.exists_text_below (sourcePath c name).folder (start ++ Disk.extension) with
    ⟨before, text⟩
  refine ⟨before ++ start, ?_⟩
  rw [path] at text
  rw [text, String.append_assoc]

theorem getLast?_parts_licence (c : Config) :
    (c.resourcesDir.child "LICENSE").parts.getLast? = some "LICENSE" := by
  have single : Path.ofText "LICENSE" = ⟨"", ["LICENSE"]⟩ := by decide
  simp [Path.child, Path.join, single]

/-- The copy of a licence file is no source. -/
theorem licence_apart {name : String} (takes : d.Takes (sourcePath c name))
    (copied : d.Takes (c.resourcesDir.child "LICENSE")) :
    (c.resourcesDir.child "LICENSE").text ≠ (sourcePath c name).text ∧
      d.Apart (c.resourcesDir.child "LICENSE") (sourcePath c name) := by
  have other (here : Path) (start : String) :
      (here.below "LICENSE").text ≠ start ++ Disk.extension :=
    Disk.text_below_ne (c := 'E') (by decide) (by decide) start
  have last := getLast?_parts_licence c
  constructor
  · rcases exists_text_sourcePath c name with ⟨start, text⟩
    rw [text, ← Path.folder_below last]
    exact other _ start
  · rcases takes with ⟨place, hplace, _⟩
    rcases copied with ⟨target, htarget, _⟩
    rcases Disk.exists_below_of_place last (by decide) htarget with ⟨here, _, rfl⟩
    rcases Disk.exists_text_of_place hplace with ⟨start, text⟩
    rw [Disk.Apart, Disk.nameOf?_of_place htarget, Disk.nameOf?_of_place hplace, text]
    exact fun same => other here start (Option.some.inj same)

theorem IsCopy.nodup_map {copies : List (Path × String)} (h : IsCopy c copies)
    (view : Path × String → String) : (copies.map view).Nodup := by
  rcases h with rfl | ⟨text, rfl⟩
  · simp
  · simp

/-! ## Sources that are kept -/

/-- What a run should leave: paths that differ, and each source, of a class or shared, in a file of
its own. -/
structure KeepsSources (c : Config) (schema : Schema) (summary : Summary) (outcome : Outcome) :
    Prop where
  distinct : outcome.progress.written.Nodup
  kept : ∃ sources, schema.classes.mapM (sourceOf c schema) = .ok sources ∧
    ∃ shared : SharedParts c schema summary,
      outcome.progress.disk.Keeps (sources.map (sourceFile c) ++ shared.sources)

/-- The sources have the paths of their names. -/
theorem map_fst_sources {sources : List Source.ClassSource}
    (generated : schema.classes.mapM (sourceOf c schema) = .ok sources)
    (shared : SharedParts c schema summary) :
    (sources.map (sourceFile c) ++ shared.sources).map Prod.fst =
      (sourceNames schema).map (sourcePath c) := by
  have names : sources.map Source.ClassSource.name =
      schema.classes.map fun cls => Naming.classCase cls.name.display := by
    refine Except.map_eq_of_mapM_eq_ok _ _ ?_ generated
    intro cls source hsource
    rcases name_of_sourceOf hsource with ⟨name, named, same⟩
    rw [same, named]
    rfl
  have classes : (sources.map (sourceFile c)).map Prod.fst =
      (sources.map Source.ClassSource.name).map (sourcePath c) := by
    rw [List.map_map, List.map_map]
    rfl
  rw [List.map_append, classes, names, sourceNames, List.map_append]
  rfl

/-- What holds of the paths of two sources holds of their names. -/
theorem pairwise_sources_iff {sources : List Source.ClassSource}
    (generated : schema.classes.mapM (sourceOf c schema) = .ok sources)
    (shared : SharedParts c schema summary) {R : Path → Path → Prop} :
    (sources.map (sourceFile c) ++ shared.sources).Pairwise (fun f g => R f.1 g.1) ↔
      (sourceNames schema).Pairwise fun a b => R (sourcePath c a) (sourcePath c b) := by
  calc (sources.map (sourceFile c) ++ shared.sources).Pairwise (fun f g => R f.1 g.1)
      ↔ ((sources.map (sourceFile c) ++ shared.sources).map Prod.fst).Pairwise R :=
        List.pairwise_map.symm
    _ ↔ ((sourceNames schema).map (sourcePath c)).Pairwise R := by
        rw [map_fst_sources generated shared]
    _ ↔ (sourceNames schema).Pairwise fun a b => R (sourcePath c a) (sourcePath c b) :=
        List.pairwise_map

theorem exists_name_of_mem {sources : List Source.ClassSource}
    (generated : schema.classes.mapM (sourceOf c schema) = .ok sources)
    (shared : SharedParts c schema summary) {f : Path × String}
    (hf : f ∈ sources.map (sourceFile c) ++ shared.sources) :
    ∃ name ∈ sourceNames schema, sourcePath c name = f.1 := by
  have there : f.1 ∈ (sourceNames schema).map (sourcePath c) := by
    rw [← map_fst_sources generated shared]
    exact List.mem_map_of_mem hf
  exact List.mem_map.mp there

theorem takes_of_mem_sourceNames {frozen : Bool} {disk : Disk} {copies : List (Path × String)}
    {p : Progress} {sources : List Source.ClassSource}
    (generated : schema.classes.mapM (sourceOf c schema) = .ok sources)
    (shared : SharedParts c schema summary)
    (wrote : Wrote disk (sources.map (sourceFile c) ++ shared.sources ++ copies) frozen p)
    {name : String} (hname : name ∈ sourceNames schema) : p.disk.Takes (sourcePath c name) := by
  have there : sourcePath c name ∈
      (sources.map (sourceFile c) ++ shared.sources).map Prod.fst := by
    rw [map_fst_sources generated shared]
    exact List.mem_map_of_mem hname
  rcases List.mem_map.mp there with ⟨f, hf, path⟩
  rw [← path]
  exact wrote.takes f (List.mem_append_left _ hf)

theorem pairwise_leadApart_of_keeps (done : Completion c schema summary)
    (keeps : KeepsSources c schema summary (run c schema)) :
    (sourceNames schema).Pairwise (LeadApart c (run c schema).progress.disk) := by
  have written := keeps.distinct
  rw [done.wrote.leaves.written, List.map_append] at written
  have texts : (sourceNames schema).Pairwise fun a b =>
      (sourcePath c a).text ≠ (sourcePath c b).text :=
    (pairwise_sources_iff done.generated done.shared (R := fun p q => p.text ≠ q.text)).mp
      (List.pairwise_map.mp (List.nodup_append.mp written).1)
  rcases keeps.kept with ⟨sources, generated, shared, kept⟩
  have places := (pairwise_sources_iff generated shared).mp kept.apart
  exact (texts.and places).imp fun both => ⟨both.1, both.2⟩

theorem keeps_of_pairwise_leadApart (done : Completion c schema summary)
    (apart : (sourceNames schema).Pairwise (LeadApart c (run c schema).progress.disk)) :
    KeepsSources c schema summary (run c schema) := by
  have texts := (pairwise_sources_iff done.generated done.shared
    (R := fun p q => p.text ≠ q.text)).mpr (apart.imp LeadApart.text)
  have places := (pairwise_sources_iff done.generated done.shared).mpr (apart.imp LeadApart.place)
  have takes := done.wrote.takes
  -- What is copied besides does not get in the way of a source.
  have spared : ∀ f ∈ done.sources.map (sourceFile c) ++ done.shared.sources,
      ∀ g ∈ done.shared.copies,
        g.1.text ≠ f.1.text ∧ (run c schema).progress.disk.Apart g.1 f.1 := by
    intro f hf g hg
    have copied := takes g (List.mem_append_right _ hg)
    rcases exists_name_of_mem done.generated done.shared hf with ⟨name, _, path⟩
    have taken := takes f (List.mem_append_left _ hf)
    rcases done.shared.copied with nothing | ⟨text, one⟩
    · simp [nothing] at hg
    · rw [one, List.mem_singleton] at hg
      rw [hg] at copied ⊢
      rw [← path] at taken ⊢
      exact licence_apart taken copied
  constructor
  · rw [done.wrote.leaves.written, List.map_append, List.nodup_append]
    refine ⟨List.pairwise_map.mpr texts, done.shared.copied.nodup_map _, ?_⟩
    intro text htext other hother same
    rcases List.mem_map.mp htext with ⟨f, hf, rfl⟩
    rcases List.mem_map.mp hother with ⟨g, hg, rfl⟩
    exact (spared f hf g hg).1 same.symm
  · refine ⟨done.sources, done.generated, done.shared, ?_⟩
    apply Disk.keeps_of_holds done.wrote.leaves.holds
    · intro f hf
      exact takes f (List.mem_append_left _ hf)
    · exact places
    · intro f hf g hg
      exact (spared f hf g hg).2

/-- A run that completes keeps its sources exactly if no two names lead to one file.  Names without
slashes only have to differ. -/
theorem keepsSources_iff (completed : (run c schema).result = .ok summary) :
    (KeepsSources c schema summary (run c schema) ↔
      (sourceNames schema).Pairwise (LeadApart c (run c schema).progress.disk)) ∧
    ((∀ name ∈ sourceNames schema, '/' ∉ name.toList) →
      (KeepsSources c schema summary (run c schema) ↔ (sourceNames schema).Nodup)) := by
  rcases exists_completion completed with ⟨done⟩
  have general : KeepsSources c schema summary (run c schema) ↔
      (sourceNames schema).Pairwise (LeadApart c (run c schema).progress.disk) :=
    ⟨pairwise_leadApart_of_keeps done, keeps_of_pairwise_leadApart done⟩
  refine ⟨general, ?_⟩
  intro plain
  calc KeepsSources c schema summary (run c schema)
      ↔ (sourceNames schema).Pairwise (LeadApart c (run c schema).progress.disk) := general
    _ ↔ (sourceNames schema).Nodup := by
        apply List.Pairwise.iff_of_mem
        intro a b ha hb
        exact leadApart_iff (plain a ha) (plain b hb)
          (takes_of_mem_sourceNames done.generated done.shared done.wrote ha)
          (takes_of_mem_sourceNames done.generated done.shared done.wrote hb)

end Run

namespace Sample

/-- Whether the names of all sources differ, and none of them leads to another folder. -/
def HasPlainNames (schema : Schema) : Prop :=
  (∀ name ∈ Run.sourceNames schema, '/' ∉ name.toList) ∧ (Run.sourceNames schema).Nodup

instance (schema : Schema) : Decidable (HasPlainNames schema) := by
  unfold HasPlainNames
  infer_instance

set_option maxRecDepth 20000 in
theorem hasPlainNames_events :
    ((Run.finished? (licensed "p") events).any fun (schema, _) => HasPlainNames schema) = true := by
  decide +kernel

end Sample

namespace Run

theorem keepsSources_iff_events :
    ∃ schema summary, Schema.ofDocument Sample.events = .ok schema ∧
      (run (Sample.licensed "p") schema).result = .ok summary ∧ Sample.HasPlainNames schema ∧
      KeepsSources (Sample.licensed "p") schema summary (run (Sample.licensed "p") schema) := by
  rcases (Option.any_eq_true _ _).mp Sample.hasPlainNames_events with
    ⟨⟨schema, summary⟩, finished, named⟩
  rcases of_finished?_eq_some finished with ⟨parsed, completed⟩
  have named : Sample.HasPlainNames schema := of_decide_eq_true named
  refine ⟨schema, summary, parsed, completed, named, ?_⟩
  exact ((keepsSources_iff completed).2 named.1).mpr named.2

end Run

/-! ## Two classes with one file -/

namespace Sample

/-- Two classes whose names are the same in the spelling of sources. -/
def alike : Json :=
  .object [("classes", .list [
    .object [("name", .text "vm_disk"), ("description", .text "A disk of a machine.")],
    .object [("name", .text "vmDisk"), ("description", .text "Another kind of disk.")]])]

/-- Whether the source of the first class is gone, although the run says that it was written. -/
def LosesFirst (schema : Schema) : Prop :=
  schema.classes.map ApiClass.name = [.text "vm_disk", .text "vmDisk"] ∧
  (run config schema).progress.written =
    ["out/p/VmDisk.java", "out/p/VmDisk.java", "out/p/Types.java", "out/p/APIVersion.java"] ∧
  (schema.classes.head?.bind fun cls => (Run.sourceOf config schema cls).toOption).any fun source =>
    ((run config schema).progress.disk.read (Run.sourceFile config source).1).toOption ≠
      some source.text

instance (schema : Schema) : Decidable (LosesFirst schema) := by
  unfold LosesFirst
  infer_instance

set_option maxRecDepth 20000 in
theorem losesFirst_alike :
    ((Run.finished? config alike).any fun (schema, _) => LosesFirst schema) = true := by
  decide +kernel

end Sample

namespace Run

/-- The source of the second class takes the place of the first one, and the run completes. -/
theorem not_keepsSources_of_alike :
    ∃ schema summary, Schema.ofDocument Sample.alike = .ok schema ∧
      (schema.classes.map ApiClass.name).Nodup ∧
      (run Sample.config schema).result = .ok summary ∧ Sample.LosesFirst schema ∧
      ¬KeepsSources Sample.config schema summary (run Sample.config schema) := by
  rcases (Option.any_eq_true _ _).mp Sample.losesFirst_alike with
    ⟨⟨schema, summary⟩, finished, loses⟩
  rcases of_finished?_eq_some finished with ⟨parsed, completed⟩
  have loses : Sample.LosesFirst schema := of_decide_eq_true loses
  refine ⟨schema, summary, parsed, ?_, completed, loses, ?_⟩
  · rw [loses.1]
    decide
  · intro keeps
    have distinct := keeps.distinct
    rw [loses.2.1] at distinct
    simp at distinct

end Run
end ClientBindings
