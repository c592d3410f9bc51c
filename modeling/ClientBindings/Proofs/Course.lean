import ClientBindings.Proofs.Independence
import ClientBindings.Proofs.Outcome
import ClientBindings.Proofs.Presentable

/-!
# Course — what a run comes to, without its files

Where its files can be written, what a run comes to is told by a chain of computations: the kinds of
objects are named, the sources of the classes are generated, everything that the shared sources need
is declared, and the releases are listed.  Neither the disk nor the log has a part in it.

* `Run.registryOf`, `Run.snapshotOf` — the registry behind the classes of a schema, and its snapshot;
* `Run.course` — the chain;
* `Run.result_eq_course` — a run comes to what its course comes to.
-/

namespace ClientBindings
namespace Run

/-- The registry behind the classes of a schema, whether their sources complete or not. -/
def registryOf (c : Config) (schema : Schema) : Registry :=
  (Registry.empty.settle (objectKinds schema.classes).javaType).registry.afterSources
    (c.settings schema) schema.classes

/-- The snapshot that the shared sources are generated from. -/
def snapshotOf (c : Config) (schema : Schema) : Snapshot :=
  (registryOf c schema).freeze.2

/-- What a run over a schema does besides writing files. -/
def course (c : Config) (schema : Schema) : Except Fault Summary := do
  let _ ← (objectKinds schema.classes).javaType.settled
  let _ ← schema.classes.mapM (sourceOf c schema)
  let declarations ← Shared.declarations (snapshotOf c schema) schema.errors
  let _ ← releasesScope c schema
  return ⟨snapshotOf c schema, declarations⟩

variable {c : Config} {schema : Schema} {disk : Disk} {p : Progress}

/-- The source that lists the releases asks for texts for their names. -/
theorem releasesScope_needs (c : Config) (schema : Schema) :
    Except.Needs Fault.Reported (∀ r ∈ schema.releases, r.codeName.isText = true)
      (releasesScope c schema) := by
  have each : Except.Needs Fault.Reported (∀ r ∈ schema.releases, r.codeName.isText = true)
      (schema.releases.mapM releaseValue) :=
    Except.Judged.needs_mapM fun r _ => (Json.asText_needs r.codeName).bind_pure _
  exact each.bind_pure _

theorem snapshot_of_classes (completed : (classes c schema).Completes (Progress.start disk) () p) :
    p.registry.freeze.2 = snapshotOf c schema := by
  rw [classes_leave completed]
  rfl

/-- Where all classes have a source, the run gets behind them. -/
theorem exists_behind_classes (writable : c.Writable schema disk) {kinds : String}
    {sources : List Source.ClassSource}
    (hkinds : (objectKinds schema.classes).javaType.settled = .ok kinds)
    (hsources : schema.classes.mapM (sourceOf c schema) = .ok sources) :
    ∃ p, (classes c schema).Completes (Progress.start disk) () p ∧
      Stage disk (sources.map (sourceFile c)) false p ∧
      p.registry.freeze.2 = snapshotOf c schema := by
  have takes := takes_of_writable writable (fun _ hcls => hcls) hsources
  obtain ⟨p, completed, stage⟩ := classes_completes_of hkinds takes hsources
  exact ⟨p, completed, stage, snapshot_of_classes completed⟩

/-- Behind the classes, what is left of a run is what is left of its course. -/
theorem result_behind_classes (writable : c.Writable schema disk) {kinds : String}
    {sources : List Source.ClassSource}
    (hkinds : (objectKinds schema.classes).javaType.settled = .ok kinds)
    (hsources : schema.classes.mapM (sourceOf c schema) = .ok sources) :
    (run c schema).result = (do
      let declarations ← Shared.declarations (snapshotOf c schema) schema.errors
      let _ ← releasesScope c schema
      return ⟨snapshotOf c schema, declarations⟩) := by
  obtain ⟨p, completed, stage, held⟩ := exists_behind_classes writable hkinds hsources
  rw [← held]
  cases declared : Shared.declarations p.registry.freeze.2 schema.errors with
  | error fault =>
    obtain ⟨q, fails, _⟩ := shared_fails_of stage declared
    have failed : (all c schema).Fails (Progress.start disk) fault q :=
      fails_bind.mpr (Or.inr ⟨(), p, completed, fails⟩)
    exact (run_of_fails writable.made failed).1
  | ok d =>
    cases listed : releasesScope c schema with
    | error fault =>
      obtain ⟨q, types, fails, _⟩ := shared_fails_of_releases writable stage declared listed
      have failed : (all c schema).Fails (Progress.start disk) fault q :=
        fails_bind.mpr (Or.inr ⟨(), p, completed, fails⟩)
      exact (run_of_fails writable.made failed).1
    | ok scope =>
      have named := ((releasesScope_needs c schema).exists_ok_iff.mp ⟨scope, listed⟩).1
      obtain ⟨q, shared, completes, _⟩ :=
        shared_completes_of (writable.ready named) stage (areSources_map c sources) declared
      have finished : (all c schema).Completes (Progress.start disk) ⟨_, d⟩ q :=
        completes_bind.mpr ⟨(), p, completed, completes⟩
      exact (run_of_completes writable.made finished).1

/-- A run whose files can be written comes to what its course comes to. -/
theorem result_eq_course (writable : c.Writable schema disk) :
    (run c schema).result = course c schema := by
  unfold course
  cases hkinds : (objectKinds schema.classes).javaType.settled with
  | error fault => exact (run_of_kinds_fault writable hkinds).1
  | ok kinds =>
    cases hsources : schema.classes.mapM (sourceOf c schema) with
    | error fault =>
      obtain ⟨before, cls, after, sources, split, hbefore, hcls⟩ := Except.mapM_eq_error hsources
      exact (run_of_class_fault writable hkinds split hbefore hcls).1
    | ok sources => exact result_behind_classes writable hkinds hsources

end Run
end ClientBindings
