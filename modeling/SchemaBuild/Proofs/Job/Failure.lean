import SchemaBuild.Proofs.Job.Release

/-!
# Failures

What a job leaves behind that fails after its compiler succeeded. If publishing fails, the output
is what it was before. If something fails after publishing, the output is what was staged. So the
output is never a mixture of both.
-/

namespace SchemaBuild

open FileSystem

namespace Job

variable {programs : Programs} {job : Job} {directory : Path} {name : Name}
  {parents : FileSystem} {world middle after : World} {left : Nat} {location : Location}
  {error : JobError}

/-! ## Publication that fails -/

theorem removeTree_changed (enters : world.files.Enters directory.bytes left location)
    (works : job.WorksIn directory name) (sound : world.files.Sound)
    (fits : Fits (directory.bytes ++ slashByte :: suffixed name ".temp")) :
    ChangedIn location [suffixed name ".temp"] world.files
      (outcome (removeTree job.output.path.staging) world).2.files := by
  have named := works.named ".temp" (by decide)
  rw [removeTree_files, works.staging_bytes]
  generalize tried : outcome (FileOperation.removeTree
    (directory.bytes ++ slashByte :: suffixed name ".temp")) world.files = attempt
  exact (removeTree_entry enters works.ends named fits sound tried).1

/-- A publication that fails changes the file it was writing to at most. -/
theorem publish_failed (works : job.WorksIn directory name)
    (staged : Staged directory name parents world.files left location)
    (unfinished : ∀ path, job.output = .archive path →
      world.files.Unshared (location ++ [suffixed name ".tmp"]))
    (spares : ∀ path, job.output = .directory path → world.files.Spares directory.bytes name)
    (failed : outcome (publish job.output.path.staging job.output) world = (.error error, after)) :
    ChangedIn location [suffixed name ".tmp"] world.files after.files ∧
      after.files.Includes world.files := by
  cases kind : job.output with
  | archive path =>
      have publishes : publish job.output.path.staging job.output =
          publishArchive job.output.path.staging job.output.path := by
        rw [kind]
        rfl
      rw [publishes] at failed
      rcases publishArchive_staged works staged (unfinished path kind) failed with
        ⟨succeeded, -⟩ | ⟨_, -, changed, includes, -⟩
      · cases succeeded
      · exact ⟨changed, includes⟩
  | directory path =>
      have publishes : publish job.output.path.staging job.output =
          publishDirectory job.output.path.staging job.output.path := by
        rw [kind]
        rfl
      rw [publishes] at failed
      have same := publishDirectory_failed works staged (spares path kind) failed
      rw [same]
      exact ⟨.refl .., .refl _⟩

/-! ## The end of a job that fails -/

theorem writeText_failed {path : Path} {text : String}
    (failed : outcome (writeText path text) world = (.error error, after)) :
    after.files = world.files ∧ ∃ cause, error = .update path cause := by
  obtain ⟨result, files⟩ := outcome_writeText path text world
  rw [failed, FileOperation.outcome_change] at result files
  cases replaced : world.files.replace path.bytes (.ofString text) with
  | error cause =>
      rw [replaced] at result files
      exact ⟨files, cause, Except.error.inj result⟩
  | ok middle =>
      rw [replaced] at result
      cases result

/-- What fails at the end of a job changes nothing. -/
theorem finish_failed (works : job.WorksIn directory name)
    (fits : Fits (directory.bytes ++ slashByte :: suffixed name ".temp"))
    (failed : outcome job.finish world = (.error error, after)) :
    after.files = world.files ∧
      ((∃ target ∈ job.targets, error = .missingOutput target) ∨
        ∃ cause, error = .update job.depfile cause) := by
  rw [finish, outcome_bind, outcome_get] at failed
  simp only at failed
  split at failed
  next target missing =>
    obtain ⟨same, rfl⟩ := Prod.mk.inj failed
    exact ⟨rfl, .inl ⟨target, List.mem_of_find?_eq_some missing, (Except.error.inj same).symm⟩⟩
  next all =>
    have found : ∀ target ∈ job.targets, world.files.exists? target.bytes = true := by
      simpa using List.find?_eq_none.1 all
    obtain ⟨first, rest, isTargets⟩ := List.exists_cons_of_ne_nil job.targets_ne_nil
    have isTarget : first ∈ job.targets := isTargets ▸ List.mem_cons_self
    obtain ⟨left, location, enters⟩ := enters_of_target works isTarget (found first isTarget)
    have made := makeParent_depfile works enters (fits.above works.ends.ne_nil)
    rw [outcome_bind, made] at failed
    obtain ⟨same, cause, update⟩ := writeText_failed failed
    exact ⟨same, .inr ⟨cause, update⟩⟩

/-- The output after a failure: it is what it was before, or all that was staged. The directory's
path leads nowhere but to the place of the output. -/
theorem release_failed (works : job.WorksIn directory name)
    (staged : Staged directory name parents world.files left location)
    (unfinished : ∀ path, job.output = .archive path →
      world.files.Unshared (location ++ [suffixed name ".tmp"]))
    (sparesOutput : ∀ path, job.output = .directory path →
      world.files.Spares directory.bytes name)
    (sound : parents.Sound) (spares : parents.Spares directory.bytes (suffixed name ".temp"))
    (failed : outcome job.release world = (.error error, after)) :
    after.files.Enters directory.bytes left location ∧
        (∀ rest, after.files.sight? (location ++ name :: rest) =
          parents.sight? (location ++ name :: rest)) ∨
      (∀ otherLeft other, after.files.Enters directory.bytes otherLeft other → other = location) ∧
        job.output.Holds name location world.files after.files ∧
        ((∃ target ∈ job.targets, error = .missingOutput target) ∨
          ∃ cause, error = .update job.depfile cause) := by
  rw [outcome_release] at failed
  cases publishes : outcome (publish job.output.path.staging job.output) world with
  | mk result middle =>
      rw [publishes] at failed
      cases result with
      | error cause =>
          left
          obtain ⟨-, rfl⟩ := Prod.mk.inj failed
          obtain ⟨changed, includes⟩ :=
            publish_failed works staged unfinished sparesOutput publishes
          have enters := staged.enters.mono includes changed.working
          have cleared := removeTree_changed enters works (changed.sound staged.sound) staged.fits
          refine ⟨spares.enters_of_includes sound staged.enteredBefore staged.changed includes
            changed.working cleared, fun rest => ?_⟩
          rw [cleared.sight _ (apart_output (by decide) rest),
            changed.sight _ (apart_output (by decide) rest),
            staged.changed.sight _ (apart_output (by decide) rest)]
      | ok =>
          right
          simp only at failed
          have published := published_of_publish works staged unfinished publishes
          obtain ⟨clearing, entered⟩ := removeStaging_published works staged published rfl
          obtain ⟨same, cause⟩ := finish_failed works staged.fits failed
          rw [same]
          refine ⟨fun otherLeft other enters => ?_, published.holds.congr fun rest => ?_, cause⟩
          · exact ((entered otherLeft other enters).1.unique enters).1
          · exact clearing.sight _ (apart_output (by decide) rest)

/-- When a planned job fails although its compiler succeeded, the output is what it was before, in
the directory to which the module's path leads before and after, or it is all that was staged, and
the path leads nowhere else. Only what comes after publishing can fail in the second case. -/
theorem run_failed_output {schema : Schema} {root : Path} {plan : Plan} {action : Action}
    {xsdc : String} (planned : schema.plan root = .ok plan) (member : action ∈ plan.actions)
    (isJob : job = .ofAction action xsdc) (sound : world.files.Sound)
    (confined : StaysBelow programs job.command job.output.path.staging)
    (spares : (job.parents world).files.Spares (schema.directory root).bytes
      (suffixed action.language.outputName ".temp"))
    (unfinished : ∀ path, job.output = .archive path →
      (job.staged programs world).files.WritesAlone job.output.path.unfinished.bytes)
    (sparesOutput : ∀ path, job.output = .directory path →
      (job.staged programs world).files.Spares (schema.directory root).bytes
        action.language.outputName)
    (compiled : (outcome (job.stage programs) world).1 = .ok ())
    (failed : (outcome (job.run programs) world).1 = .error error) :
    ∃ location,
      (∃ left, (job.parents world).files.Enters (schema.directory root).bytes left location) ∧
      (∃ left, (job.staged programs world).files.Enters (schema.directory root).bytes left
        location) ∧
      Grown (schema.directory root) world.files (job.parents world).files ∧
      ((∃ left, (outcome (job.run programs) world).2.files.Enters (schema.directory root).bytes left
            location) ∧
          (∀ rest, (outcome (job.run programs) world).2.files.sight?
              (location ++ action.language.outputName :: rest) =
            (job.parents world).files.sight? (location ++ action.language.outputName :: rest)) ∨
        (∀ left other, (outcome (job.run programs) world).2.files.Enters
            (schema.directory root).bytes left other → other = location) ∧
          job.output.Holds action.language.outputName location (job.staged programs world).files
            (outcome (job.run programs) world).2.files ∧
          ((∃ target ∈ job.targets, error = .missingOutput target) ∨
            ∃ cause, error = .update job.depfile cause)) := by
  have works : job.WorksIn (schema.directory root) action.language.outputName :=
    isJob ▸ Schema.worksIn_of_plan planned member xsdc
  have stages : outcome (job.stage programs) world = (.ok (), job.staged programs world) :=
    Prod.ext compiled rfl
  obtain ⟨grown, left, location, staged⟩ := stage_spared works sound confined spares stages
  have unshared (path : Path) (isArchive : job.output = .archive path) :
      (job.staged programs world).files.Unshared
        (location ++ [suffixed action.language.outputName ".tmp"]) := by
    have alone := unfinished path isArchive
    rw [works.unfinished_bytes] at alone
    exact alone.unshared staged.enters works.ends (works.named ".tmp" (by decide))
      (staged.fits_suffixed ".tmp" (by decide))
  have releases : outcome job.release (job.staged programs world) =
      (.error error, (outcome (job.run programs) world).2) := by
    rw [← run_of_stage stages]
    exact Prod.ext failed rfl
  have output := release_failed works staged unshared sparesOutput (grown.sound sound) spares
    releases
  exact ⟨location, ⟨left, staged.enteredBefore⟩, ⟨left, staged.enters⟩, grown,
    output.imp_left fun unchanged => ⟨⟨left, unchanged.1⟩, unchanged.2⟩⟩

/-! ## Sample runs -/

def occupied : World where
  files := {
    root := .ofList [(Bytes.ofString "gen", .directory (.ofList [
      (Bytes.ofString "foo", .directory (.ofList [
        (Bytes.ofString "xsdcgen.srcjar", .directory (.ofList [
          (Bytes.ofString "old", .file 0)]))]))]))]
    stored := #[{ content := .ofString "old" }] }

theorem sample_run_failed_output :
    (outcome (sample.run generating) occupied).1 =
        .error (.update ⟨"gen/foo/xsdcgen.srcjar"⟩ .isDirectory) ∧
      ∃ location,
        (∃ left, (sample.parents occupied).files.Enters
          (CommandLine.sample.directory ⟨"gen"⟩).bytes left location) ∧
        (∃ left, (sample.staged generating occupied).files.Enters
          (CommandLine.sample.directory ⟨"gen"⟩).bytes left location) ∧
        Grown (CommandLine.sample.directory ⟨"gen"⟩) occupied.files
          (sample.parents occupied).files ∧
        ((∃ left, (outcome (sample.run generating) occupied).2.files.Enters
              (CommandLine.sample.directory ⟨"gen"⟩).bytes left location) ∧
            (∀ rest, (outcome (sample.run generating) occupied).2.files.sight?
                (location ++ Language.java.outputName :: rest) =
              (sample.parents occupied).files.sight?
                (location ++ Language.java.outputName :: rest)) ∨
          (∀ left other, (outcome (sample.run generating) occupied).2.files.Enters
              (CommandLine.sample.directory ⟨"gen"⟩).bytes left other → other = location) ∧
            sample.output.Holds Language.java.outputName location
              (sample.staged generating occupied).files
              (outcome (sample.run generating) occupied).2.files ∧
            ((∃ target ∈ sample.targets,
                JobError.update ⟨"gen/foo/xsdcgen.srcjar"⟩ .isDirectory = .missingOutput target) ∨
              ∃ cause, JobError.update ⟨"gen/foo/xsdcgen.srcjar"⟩ .isDirectory =
                .update sample.depfile cause)) := by
  obtain ⟨plan, planned, actions⟩ := sample_planned
  have failed : (outcome (sample.run generating) occupied).1 =
      .error (.update ⟨"gen/foo/xsdcgen.srcjar"⟩ .isDirectory) := by decide +kernel
  have missing : isFound ((sample.staged generating occupied).files.locate false
      sample.output.path.unfinished.bytes) = false := by decide +kernel
  have parents : (sample.parents occupied).files = occupied.files := by decide +kernel
  have member : CommandLine.sample.javaAction ⟨"gen"⟩ "com.foo" ∈ plan.actions :=
    actions ▸ List.mem_cons_self
  refine ⟨failed, run_failed_output planned member rfl (by decide +kernel) confined_sample
    (by rw [parents]; exact spares_sample rfl ⟨_, rfl⟩ _)
    (fun path _ => writesAlone_of_missing missing) (fun path isDirectory => ?_)
    (by decide +kernel) failed⟩
  cases isDirectory

def sampleCpp : Job :=
  .ofAction (CommandLine.sample.cppAction ⟨"gen"⟩ "com.foo") "xsdc"

def staleCpp : World where
  files := {
    root := .ofList [(Bytes.ofString "gen", .directory (.ofList [
      (Bytes.ofString "foo", .directory (.ofList [
        (Bytes.ofString "cpp", .directory (.ofList [
          (Bytes.ofString "com_foo.cpp", .file 0)]))]))]))]
    stored := #[{ content := .ofString "old" }] }

/-- A target that the compiler did not generate is missed only when the older output is gone. -/
theorem run_missing_target_replaces_output :
    (∃ plan, CommandLine.sample.plan ⟨"gen"⟩ = .ok plan ∧
      CommandLine.sample.cppAction ⟨"gen"⟩ "com.foo" ∈ plan.actions) ∧
    staleCpp.files.Sound ∧
    StaysBelow generating sampleCpp.command sampleCpp.output.path.staging ∧
    (outcome (sampleCpp.run generating) staleCpp).1 =
      .error (.missingOutput ⟨"gen/foo/cpp/com_foo.cpp"⟩) ∧
    staleCpp.files.read (Bytes.ofString "gen/foo/cpp/com_foo.cpp") = .ok (.ofString "old") ∧
    (outcome (sampleCpp.run generating) staleCpp).2.files.read
      (Bytes.ofString "gen/foo/cpp/com_foo.cpp") = .error .notFound := by
  obtain ⟨plan, planned, actions⟩ := sample_planned
  exact ⟨⟨plan, planned, actions ▸ .tail _ List.mem_cons_self⟩, by decide +kernel,
    confined_generating words_xsdc, by decide +kernel, by decide +kernel, by decide +kernel⟩

end Job

end SchemaBuild
