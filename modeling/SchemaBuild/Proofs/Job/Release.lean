import SchemaBuild.Proofs.CommandLine
import SchemaBuild.Proofs.FileSystem.Adding
import SchemaBuild.Proofs.Job.Publication

/-!
# Releases

What a job that succeeds leaves behind does not depend on what an earlier run left. The output is
what the compiler staged, the dependency file is new, nothing is left of the way there, and all the
rest is what it was.
-/

namespace SchemaBuild

open FileSystem

namespace Job

variable {programs : Programs} {job : Job} {directory : Path} {name : Name}
  {parents files : FileSystem} {world middle cleared after : World} {left : Nat}
  {location : Location}

theorem apart_output {suffix : String} (some : suffix ≠ "") (rest : Location) :
    Apart location [suffixed name suffix] (location ++ name :: rest) :=
  apart_other (by simpa using (suffixed_ne_self some).symm) rest

/-! ## After publication -/

theorem outcome_release (job : Job) (world : World) :
    outcome job.release world =
      match outcome (publish job.output.path.staging job.output) world with
      | (.error error, middle) =>
          (.error error, (outcome (removeTree job.output.path.staging) middle).2)
      | (.ok _, middle) =>
          outcome job.finish (outcome (removeTree job.output.path.staging) middle).2 := by
  rw [release, outcome_bind, outcome_observing]
  cases outcome (publish job.output.path.staging job.output) world with
  | mk published middle =>
      simp only
      rw [outcome_bind, outcome_discard, outcome_observing]
      simp only [Except.map]
      rw [outcome_bind, outcome_ofExcept]
      cases published <;> rfl

theorem removeTree_files (path : Path) (world : World) :
    (outcome (removeTree path) world).2.files =
      (outcome (FileOperation.removeTree path.bytes) world.files).2 := by
  rw [removeTree, outcome_onFiles]
  exact ifThere_files _ _

/-- When the staging directory is removed after publication, nothing else is changed, and it is gone
if the directory can be entered at all. -/
theorem removeStaging_published (works : job.WorksIn directory name)
    (staged : Staged directory name parents world.files left location)
    (published : Published job directory name world.files middle.files left location)
    (removed : (outcome (removeTree job.output.path.staging) middle).2.files = files) :
    ChangedIn location [suffixed name ".temp"] middle.files files ∧
      ∀ otherLeft other, files.Enters directory.bytes otherLeft other →
        files.Enters directory.bytes left location ∧
          files.node? (location ++ [suffixed name ".temp"]) = none := by
  rw [removeTree_files, works.staging_bytes] at removed
  have middleSound := published.changed.sound staged.sound
  have named := works.named ".temp" (by decide)
  by_cases entered : ∃ otherLeft other, middle.files.Enters directory.bytes otherLeft other
  · obtain ⟨otherLeft, other, enters⟩ := entered
    obtain ⟨rfl, rfl⟩ := published.unique otherLeft other enters
    generalize tried : outcome (FileOperation.removeTree
      (directory.bytes ++ slashByte :: suffixed name ".temp")) middle.files = attempt at removed
    obtain ⟨result, behind⟩ := attempt
    obtain rfl := removed
    obtain ⟨changed, cases⟩ :=
      removeTree_entry enters works.ends named staged.fits middleSound tried
    refine ⟨changed, fun laterLeft later entersThen => ?_⟩
    rcases cases laterLeft later entersThen with ⟨gone, -⟩ | ⟨-, rfl, noDirectory⟩
    · have closed : ∀ entry ∈ [suffixed name ".temp"], ∀ rest,
          middle.files.Passable (other ++ entry :: rest) →
            ¬behind.Passable (other ++ entry :: rest) := by
        intro entry member rest _
        exact List.mem_singleton.1 member ▸ not_passable_of_vacant gone rest
      obtain ⟨rfl, rfl⟩ := changed.unique closed enters entersThen
      exact ⟨entersThen, gone⟩
    · exact ⟨enters, published.staging.resolve_left noDirectory⟩
  · obtain ⟨error, failed⟩ := removeTree_of_not_enters works.ends named.toIsProper entered
    rw [failed] at removed
    obtain rfl := removed
    exact ⟨.refl .., fun otherLeft other enters => absurd ⟨otherLeft, other, enters⟩ entered⟩

/-! ## The dependency file -/

theorem enters_of_target (works : job.WorksIn directory name) {target : Path}
    (member : target ∈ job.targets) (found : files.exists? target.bytes = true) :
    ∃ left location, files.Enters directory.bytes left location := by
  obtain ⟨rest, bytes, some⟩ := works.targets target member
  rw [FileSystem.exists?, bytes] at found
  cases located : files.locate true (directory.bytes ++ slashByte :: rest) with
  | error error => simp [located] at found
  | ok place =>
      rw [locate, if_pos rfl] at located
      obtain ⟨left, location, enters, -⟩ := enters_of_seek works.ends some located
      exact ⟨left, location, enters⟩

theorem targets_ne_nil (job : Job) : job.targets ≠ [] := by
  rw [targets]
  split
  · simp
  next some => simpa using some

/-- Writing a text changes files in no other way than to replace a file's content. What is printed
after that changes none. -/
theorem outcome_writeText (path : Path) (text : String) (world : World) :
    (outcome (writeText path text) world).1 =
        (outcome (FileOperation.change fun files => files.replace path.bytes (.ofString text))
          world.files).1.mapError (JobError.update path) ∧
      (outcome (writeText path text) world).2.files =
        (outcome (FileOperation.change fun files => files.replace path.bytes (.ofString text))
          world.files).2 := by
  rw [writeText, outcome_bind, outcome_onFiles]
  rcases outcome (FileOperation.change fun files => files.replace path.bytes (.ofString text))
    world.files with ⟨result, files⟩
  cases result with
  | error error => exact ⟨rfl, rfl⟩
  | ok =>
      simp only [mapError_ok]
      rw [outcome_bind, outcome_get]
      simp only
      split <;> exact ⟨rfl, rfl⟩

theorem writeText_ok {path : Path} {text : String}
    (written : outcome (writeText path text) world = (.ok (), after)) :
    world.files.replace path.bytes (.ofString text) = .ok after.files := by
  obtain ⟨result, files⟩ := outcome_writeText path text world
  rw [written, FileOperation.outcome_change] at result files
  cases replaced : world.files.replace path.bytes (.ofString text) with
  | error error =>
      rw [replaced] at result
      cases result
  | ok middle =>
      rw [replaced] at files
      exact congrArg Except.ok files.symm

theorem finish_ok
    (finished : outcome job.finish world = (.ok (), after)) :
    (∀ target ∈ job.targets, world.files.exists? target.bytes = true) ∧
      ∃ parents, outcome (makeParent job.depfile) world = (.ok (), parents) ∧
        parents.files.replace job.depfile.bytes
          (.ofString (Depfile.render job.targets job.includes)) = .ok after.files := by
  rw [finish, outcome_bind, outcome_get] at finished
  simp only at finished
  split at finished
  · cases finished
  next all =>
    obtain ⟨⟨⟩, parents, made, written⟩ := outcome_bind_eq_ok.1 finished
    refine ⟨?_, parents, made, writeText_ok written⟩
    simpa using List.find?_eq_none.1 all

theorem makeParent_depfile (works : job.WorksIn directory name)
    (enters : world.files.Enters directory.bytes left location) (fits : Fits directory.bytes) :
    outcome (makeParent job.depfile) world = (.ok (), world) := by
  have isParent : job.depfile.parent? = some directory := by
    rw [works.depfile]
    exact works.parent ".d" (by decide)
  have made := enters.makeDirectories works.ends works.noSlash fits
  rw [makeParent_eq isParent works.ends.ne_nil, outcome_onFiles, made]
  rfl

theorem makeParent_adds (path : Path) (world : World) :
    Adds (·.IsOnWayTo path) world.files (outcome (makeParent path) world).2.files := by
  rw [makeParent]
  cases isParent : path.parent? with
  | none => exact .refl _ _
  | some parent =>
      simp only
      split
      · exact .refl _ _
      · rw [outcome_onFiles]
        exact ((makeDirectories_grown rfl).1.above isParent).adds

theorem writeText_adds (path : Path) (text : String) (sound : world.files.Sound) :
    Adds (· = path) world.files (outcome (writeText path text) world).2.files := by
  obtain ⟨-, files⟩ := outcome_writeText path text world
  rw [files, FileOperation.outcome_change]
  split
  next replaced => exact adds_of_replace sound replaced
  next => exact .refl _ _

/-- All that is new at the end of a job is the dependency file, and what is made above it. -/
theorem finish_adds (job : Job) (sound : world.files.Sound) :
    ∃ parents : World, (parents = world ∨ parents = (outcome (makeParent job.depfile) world).2) ∧
      Adds (· = job.depfile) parents.files (outcome job.finish world).2.files := by
  rw [finish, outcome_bind, outcome_get]
  simp only
  split
  · exact ⟨world, .inl rfl, .refl _ _⟩
  · have made := (makeParent_adds job.depfile world).sound sound
    refine ⟨_, .inr rfl, ?_⟩
    rw [outcome_bind]
    generalize outcome (makeParent job.depfile) world = attempt at made
    obtain ⟨result, parents⟩ := attempt
    cases result with
    | error error => exact .refl _ _
    | ok => exact writeText_adds job.depfile _ made

/-! ## Releases -/

/-- A job released what was staged. The location is that of the directory in which the job works;
before the compiler ran, the parents of the output had been made. -/
structure Released (job : Job) (directory : Path) (name : Name)
    (before parents staged after : FileSystem) (location : Location) : Prop where
  /-- The directory's path leads there when the compiler has run, and when the job has ended. -/
  entersStaged : ∃ left, staged.Enters directory.bytes left location
  enters : ∃ left, after.Enters directory.bytes left location
  /-- The output is what was staged. -/
  output : job.output.Holds name location staged after
  targets : ∀ target ∈ job.targets, after.exists? target.bytes = true
  depfile : after.read job.depfile.bytes =
    .ok (.ofString (Depfile.render job.targets job.includes))
  /-- Nothing is left of the way there. -/
  staging : after.locate false job.output.path.staging.bytes =
    .ok (.vacant location (suffixed name ".temp"))
  unfinished : ∀ path, job.output = .archive path →
    after.locate false job.output.path.unfinished.bytes =
      .ok (.vacant location (suffixed name ".tmp"))
  /-- All the rest is what it was, but for the parents. -/
  grown : Grown directory before parents
  elsewhere : ∀ place,
    Apart location (suffixed name ".d" :: job.output.touched name) place →
      after.sight? place = parents.sight? place

theorem release_ok (works : job.WorksIn directory name)
    (staged : Staged directory name parents world.files left location)
    (unfinished : ∀ path, job.output = .archive path →
      world.files.Unshared (location ++ [suffixed name ".tmp"]))
    (depfile : world.files.Unshared (location ++ [suffixed name ".d"]))
    (grown : Grown directory files parents)
    (succeeded : outcome job.release world = (.ok (), after)) :
    Released job directory name files parents world.files after.files location := by
  rw [outcome_release] at succeeded
  cases publishes : outcome (publish job.output.path.staging job.output) world with
  | mk result middle =>
      rw [publishes] at succeeded
      cases result with
      | error error => cases succeeded
      | ok =>
          simp only at succeeded
          have published := published_of_publish works staged unfinished publishes
          generalize removes : (outcome (removeTree job.output.path.staging) middle).2 = cleared
            at succeeded
          obtain ⟨clearing, entered⟩ := removeStaging_published works staged published
            (congrArg World.files removes)
          obtain ⟨found, made, makes, replaced⟩ := finish_ok succeeded
          obtain ⟨first, rest, isTargets⟩ := List.exists_cons_of_ne_nil job.targets_ne_nil
          have isTarget : first ∈ job.targets := isTargets ▸ List.mem_cons_self
          obtain ⟨otherLeft, other, enters⟩ :=
            enters_of_target works isTarget (found first isTarget)
          obtain ⟨enters, gone⟩ := entered otherLeft other enters
          rw [makeParent_depfile works enters (staged.fits.above works.ends.ne_nil)] at makes
          obtain rfl := (Prod.mk.inj makes).2
          have sound := clearing.sound (published.changed.sound staged.sound)
          have named := works.named ".d" (by decide)
          have fits := staged.fits_suffixed ".d" (by decide)
          have apartDepfile : Apart location [suffixed name ".temp"]
              (location ++ [suffixed name ".d"]) :=
            apart_other (by simp [suffixed_ne]) []
          have unshared : cleared.files.Unshared (location ++ [suffixed name ".d"]) := by
            refine (published.depfile depfile).changedIn clearing apartDepfile
              fun id only entry member rest listed => ?_
            rw [List.mem_singleton.1 member, ← List.singleton_append, ← List.append_assoc,
              node?_append, gone] at listed
            cases listed
          rw [works.depfile_bytes] at replaced
          obtain ⟨changed, entersAfter, onlyFile, id, only, content⟩ :=
            replace_unshared enters works.ends named fits sound unshared replaced
          have vacant {suffix : String} (notDepfile : suffix ≠ ".d")
              (missing : cleared.files.node? (location ++ [suffixed name suffix]) = none) :
              after.files.node? (location ++ [suffixed name suffix]) = none := by
            rw [← sight?_eq_none] at missing ⊢
            rw [changed.sight _ (apart_other (by simpa using suffixed_ne notDepfile) []), missing]
          refine ⟨⟨left, staged.enters⟩, ⟨left, entersAfter⟩, ?_, ?_, ?_, ?_, ?_, grown, ?_⟩
          · refine published.holds.congr fun rest => ?_
            rw [changed.sight _ (apart_output (by decide) rest),
              clearing.sight _ (apart_output (by decide) rest)]
          · intro target member
            exact (changed.keeps onlyFile only.here).exists? changed.working (found target member)
          · rw [FileSystem.read, FileSystem.openAt, locate, if_pos rfl, works.depfile_bytes,
              seek_node entersAfter works.ends named fits .target (by simp) only.here]
            simp only [bind, Except.bind, content]
          · rw [locate, if_neg (by decide), works.staging_bytes]
            exact seek_vacant entersAfter works.ends (works.named ".temp" (by decide)) staged.fits
              .entry (vacant (by decide) gone)
          · intro path isArchive
            have missing := published.unfinished path isArchive
            rw [← sight?_eq_none, ← clearing.sight _ (apart_other (by simp [suffixed_ne]) []),
              sight?_eq_none] at missing
            rw [locate, if_neg (by decide), works.unfinished_bytes]
            exact seek_vacant entersAfter works.ends (works.named ".tmp" (by decide))
              (staged.fits_suffixed ".tmp" (by decide)) .entry (vacant (by decide) missing)
          · intro place apart
            have inTouched : Apart location (job.output.touched name) place :=
              apart.mono (List.subset_cons_self _ _)
            have inStaging : Apart location [suffixed name ".temp"] place := by
              refine inTouched.mono ?_
              cases job.output <;> simp [Publication.touched]
            rw [changed.sight place (apart.mono (by simp)), clearing.sight place inStaging,
              published.changed.sight place inTouched, staged.changed.sight place inStaging]

/-- A planned job that succeeds released what was staged, whatever was there before. The path of the
module's directory must not run through the staging directory, and what is written beside the
output must not be a link or a file that has another name. -/
theorem run_released {schema : Schema} {root : Path} {plan : Plan} {action : Action}
    {xsdc : String} (planned : schema.plan root = .ok plan) (member : action ∈ plan.actions)
    (isJob : job = .ofAction action xsdc) (sound : world.files.Sound)
    (confined : StaysBelow programs job.command job.output.path.staging)
    (spares : (job.parents world).files.Spares (schema.directory root).bytes
      (suffixed action.language.outputName ".temp"))
    (unfinished : ∀ path, job.output = .archive path →
      (job.staged programs world).files.WritesAlone job.output.path.unfinished.bytes)
    (depfile : (job.staged programs world).files.WritesAlone job.depfile.bytes)
    (succeeded : (outcome (job.run programs) world).1 = .ok ()) :
    ∃ location, Released job (schema.directory root) action.language.outputName world.files
      (job.parents world).files (job.staged programs world).files
      (outcome (job.run programs) world).2.files location := by
  have works : job.WorksIn (schema.directory root) action.language.outputName :=
    isJob ▸ Schema.worksIn_of_plan planned member xsdc
  have stages := stage_of_run succeeded
  obtain ⟨grown, left, location, staged⟩ := stage_spared works sound confined spares stages
  rw [works.depfile_bytes] at depfile
  refine ⟨location, release_ok works staged (fun path isArchive => ?_) ?_ grown ?_⟩
  · have alone := unfinished path isArchive
    rw [works.unfinished_bytes] at alone
    exact alone.unshared staged.enters works.ends (works.named ".tmp" (by decide))
      (staged.fits_suffixed ".tmp" (by decide))
  · exact depfile.unshared staged.enters works.ends (works.named ".d" (by decide))
      (staged.fits_suffixed ".d" (by decide))
  · rw [← run_of_stage stages]
    exact Prod.ext succeeded rfl

/-! ## Sample runs -/

def sample : Job :=
  .ofAction (CommandLine.sample.javaAction ⟨"gen"⟩ "com.foo") "xsdc"

theorem actions_sample (root : Path) (plans : ∃ plan, CommandLine.sample.plan root = .ok plan) :
    ∃ plan, CommandLine.sample.plan root = .ok plan ∧
      plan.actions = [CommandLine.sample.javaAction root "com.foo",
        CommandLine.sample.cppAction root "com.foo"] := by
  obtain ⟨plan, planned⟩ := plans
  obtain ⟨package, named, actions⟩ := Schema.actions_of_plan planned
  obtain rfl := Option.some.inj named
  exact ⟨plan, planned, actions⟩

theorem sample_planned : ∃ plan, CommandLine.sample.plan ⟨"gen"⟩ = .ok plan ∧
    plan.actions = [CommandLine.sample.javaAction ⟨"gen"⟩ "com.foo",
      CommandLine.sample.cppAction ⟨"gen"⟩ "com.foo"] :=
  actions_sample _ ⟨_, rfl⟩

def generating : Programs :=
  changing fun location files => files.putFile location (Bytes.ofString "A.java") {}

theorem words_xsdc : Text.words "xsdc" = ["xsdc"] := by
  decide +kernel

theorem proper_java : IsProper (Bytes.ofString "A.java") :=
  ⟨by decide +kernel, by decide +kernel, by decide +kernel, by decide +kernel⟩

theorem confined_generating {job : Job} {program : String}
    (words : Text.words job.xsdc = [program]) :
    StaysBelow generating job.command job.output.path.staging := by
  refine staysBelow_changing (fun location files sound has => ?_) (command_drop words)
  exact (ChangedIn.putFile sound has proper_java {}).changedBelow

theorem confined_sample : StaysBelow generating sample.command sample.output.path.staging :=
  confined_generating words_xsdc

def stale : World where
  files := {
    root := .ofList [(Bytes.ofString "gen", .directory (.ofList [
      (Bytes.ofString "foo", .directory (.ofList [
        (Bytes.ofString "xsdcgen.srcjar", .file 0),
        (Bytes.ofString "xsdcgen.srcjar.temp", .directory (.ofList [
          (Bytes.ofString "B.java", .file 1)]))]))]))]
    stored := #[{ content := .ofString "old" }, { content := .ofString "class B" }] }

theorem spares_sample {files : FileSystem} (working : files.working = [])
    (has : files.HasDirectory [Bytes.ofString "gen", Bytes.ofString "foo"]) (name : Name) :
    files.Spares (CommandLine.sample.directory ⟨"gen"⟩).bytes name := by
  have names : pathNames (CommandLine.sample.directory ⟨"gen"⟩).bytes =
      [Bytes.ofString "gen", Bytes.ofString "foo"] := by decide +kernel
  have start : walkStart (CommandLine.sample.directory ⟨"gen"⟩).bytes files.working = [] := by
    rw [working, walkStart, ite_self]
  have gen : IsStep (Bytes.ofString "gen") :=
    ⟨by decide +kernel, by decide +kernel, by decide +kernel, by decide +kernel⟩
  have foo : IsStep (Bytes.ofString "foo") :=
    ⟨by decide +kernel, by decide +kernel, by decide +kernel, by decide +kernel⟩
  have enters : files.Enters (CommandLine.sample.directory ⟨"gen"⟩).bytes linkLimit
      [Bytes.ofString "gen", Bytes.ofString "foo"] := by
    refine ⟨?_, has⟩
    rw [names, start]
    exact .down gen has.dropLast (.down foo has .here)
  refine enters.spares ?_ name
  rw [names]
  decide +kernel

theorem sample_run_released :
    ∃ location, Released sample (CommandLine.sample.directory ⟨"gen"⟩) Language.java.outputName
      stale.files (sample.parents stale).files (sample.staged generating stale).files
      (outcome (sample.run generating) stale).2.files location := by
  obtain ⟨plan, planned, actions⟩ := sample_planned
  have parents : (sample.parents stale).files = stale.files := by decide +kernel
  have member : CommandLine.sample.javaAction ⟨"gen"⟩ "com.foo" ∈ plan.actions :=
    actions ▸ List.mem_cons_self
  exact run_released planned member rfl (by decide +kernel) confined_sample
    (by rw [parents]; exact spares_sample rfl ⟨_, rfl⟩ _)
    (fun path _ => writesAlone_of_missing (by decide +kernel))
    (writesAlone_of_missing (by decide +kernel)) (by decide +kernel)

def linked : World where
  files := {
    root := .ofList [(Bytes.ofString "gen", .directory (.ofList [
      (Bytes.ofString "foo", .directory (.ofList [
        (Bytes.ofString "other", .file 0),
        (Bytes.ofString "xsdcgen.srcjar.d", .link (Bytes.ofString "other"))]))]))]
    stored := #[{ content := .ofString "kept" }] }

/-- A job that succeeds changes what its dependency file is a link to. -/
theorem run_writes_through_link :
    (∃ plan, CommandLine.sample.plan ⟨"gen"⟩ = .ok plan ∧
      CommandLine.sample.javaAction ⟨"gen"⟩ "com.foo" ∈ plan.actions) ∧
    linked.files.Sound ∧
    StaysBelow generating sample.command sample.output.path.staging ∧
    (outcome (sample.run generating) linked).1 = .ok () ∧
    linked.files.read (Bytes.ofString "gen/foo/other") = .ok (.ofString "kept") ∧
    (outcome (sample.run generating) linked).2.files.read (Bytes.ofString "gen/foo/other") =
      .ok (.ofString "gen/foo/xsdcgen.srcjar: types.xsd\n") := by
  obtain ⟨plan, planned, actions⟩ := sample_planned
  exact ⟨⟨plan, planned, actions ▸ List.mem_cons_self⟩, by decide +kernel, confined_sample,
    by decide +kernel, by decide +kernel, by decide +kernel⟩

def detour : Path := ⟨"gen/foo/xsdcgen.srcjar.temp/s/../../.."⟩

def detoured : Job :=
  .ofAction (CommandLine.sample.javaAction detour "com.foo") "xsdc"

def redirecting : Programs :=
  changing fun location files =>
    ((files.putFile location (Bytes.ofString "A.java") {}).erase location (Bytes.ofString "s")).put
      location (Bytes.ofString "s") (.link (Bytes.ofString "/x/y/z"))

theorem proper_s : IsProper (Bytes.ofString "s") := by
  decide +kernel

theorem confined_redirecting {job : Job} {program : String}
    (words : Text.words job.xsdc = [program]) :
    StaysBelow redirecting job.command job.output.path.staging := by
  refine staysBelow_changing (fun location files sound has => ?_) (command_drop words)
  have generated := ChangedIn.putFile sound has proper_java {}
  have linked := ChangedIn.linked (generated.sound sound) (generated.hasDirectory has) proper_s
    (Bytes.ofString "/x/y/z")
  have both : ChangedIn location [Bytes.ofString "A.java", Bytes.ofString "s"] files _ :=
    (generated.mono (by simp)).trans (linked.mono (by simp))
  exact both.changedBelow

def substituted : World where
  files := {
    root := .ofList [
      (Bytes.ofString "foo", .directory (.ofList [
        (Bytes.ofString "xsdcgen.srcjar.temp", .directory (.ofList [
          (Bytes.ofString "B.java", .file 0)]))])),
      (Bytes.ofString "x", .directory (.ofList [
        (Bytes.ofString "y", .directory (.ofList [
          (Bytes.ofString "z", .directory (.ofList []))]))]))]
    stored := #[{ content := .ofString "class B" }] }

/-- Such a job that succeeds publishes what is elsewhere, and leaves behind what its compiler
staged. -/
theorem run_publishes_elsewhere :
    (∃ plan, CommandLine.sample.plan detour = .ok plan ∧
      CommandLine.sample.javaAction detour "com.foo" ∈ plan.actions) ∧
    substituted.files.Sound ∧
    StaysBelow redirecting detoured.command detoured.output.path.staging ∧
    (outcome (detoured.run redirecting) substituted).1 = .ok () ∧
    (outcome (detoured.run redirecting) substituted).2.files.read
        (Bytes.ofString "foo/xsdcgen.srcjar") =
      .ok (.archive [{ name := "B.java", data := Bytes.ofString "class B" }]) ∧
    (outcome (detoured.run redirecting) substituted).2.files.exists?
        (Bytes.ofString "gen/foo/xsdcgen.srcjar.temp/A.java") = true ∧
    (outcome (detoured.run redirecting) substituted).2.files.exists?
        (Bytes.ofString "foo/xsdcgen.srcjar.temp") = false := by
  obtain ⟨plan, planned, actions⟩ := actions_sample detour ⟨_, rfl⟩
  refine ⟨⟨plan, planned, actions ▸ List.mem_cons_self⟩, by decide +kernel,
    confined_redirecting words_xsdc, ?_⟩
  decide +kernel

end Job

end SchemaBuild
