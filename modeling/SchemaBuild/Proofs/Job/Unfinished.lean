import SchemaBuild.Proofs.Job.Failure

/-!
# Unfinished archives

An archive is written beside the output and then takes its place. A job that does not get so far
removes what it has written of the archive, with one exception: it stays where it is if it cannot
take the place of the output.
-/

namespace SchemaBuild

open FileSystem

namespace Job

variable {programs : Programs} {job : Job} {directory path : Path} {name : Name}
  {parents : FileSystem} {world middle after : World} {left : Nat} {location : Location}
  {error : JobError} {result : Except JobError Unit}

/-- The result of a job tells whether an unfinished archive is left. Apart from that, there may be
the dependency file, if it is written there. -/
def TellsUnfinished (job : Job) (result : Except JobError Unit) (after : FileSystem) : Prop :=
  isFound (after.locate false job.output.path.unfinished.bytes) = true ↔
    (∃ cause, result = .error (.update job.output.path cause)) ∨
      result = .ok () ∧
        after.LeadsToEntry job.depfile.bytes job.output.path.unfinished.bytes

/-! ## What is left -/

theorem tells_of_absent {files : FileSystem}
    (absent : isFound (files.locate false job.output.path.unfinished.bytes) = false)
    (other : ∀ cause, error ≠ .update job.output.path cause) :
    job.TellsUnfinished (.error error) files := by
  rw [TellsUnfinished, absent]
  constructor
  · intro found
    cases found
  · rintro (⟨cause, same⟩ | ⟨succeeded, -⟩)
    · exact absurd (Except.error.inj same) (other cause)
    · cases succeeded

theorem absent_of_vacant {files : FileSystem} (works : job.WorksIn directory name)
    (vacant : ∀ left location, files.Enters directory.bytes left location →
      files.node? (location ++ [suffixed name ".tmp"]) = none) :
    isFound (files.locate false job.output.path.unfinished.bytes) = false := by
  have named := works.named ".tmp" (by decide)
  cases located : files.locate false job.output.path.unfinished.bytes with
  | error error => rfl
  | ok place =>
      rw [works.unfinished_bytes, locate, if_neg (by decide)] at located
      have fits := fits_of_seek located
      rcases enters_of_seek works.ends (by rw [named.toIsProper.walkNames]; simp) located with
        ⟨left, location, enters, -⟩
      rw [seek_vacant enters works.ends named fits .entry (vacant left location enters)] at located
      rcases Except.ok.inj located with rfl
      rfl

theorem absent_of_enters {files : FileSystem} (works : job.WorksIn directory name)
    (enters : files.Enters directory.bytes left location)
    (vacant : files.node? (location ++ [suffixed name ".tmp"]) = none) :
    isFound (files.locate false job.output.path.unfinished.bytes) = false := by
  apply absent_of_vacant works
  intro otherLeft other otherEnters
  rcases enters.unique otherEnters with ⟨rfl, -⟩
  exact vacant

/-- The way to the directory stays when nothing becomes of it but of an entry that it does not lead
through, and of names that it did not have. -/
theorem enters_of_spared {files : FileSystem} {names : List Name} {spared : Name}
    (sound : parents.Sound) (spares : parents.Spares directory.bytes spared)
    (enters : parents.Enters directory.bytes left location)
    (changed : ChangedIn location names parents files)
    (vacant : ∀ other ∈ names, other ≠ spared → parents.node? (location ++ [other]) = none) :
    files.Enters directory.bytes left location := by
  have includes : files.Includes (parents.erase location spared) := by
    intro place passable
    have notSpared := not_below_of_erased sound enters.has passable.exists_node
    have seen := sight?_erase_apart enters.has notSpared
    have notIn : Apart location names place := by
      intro other member
      by_cases same : other = spared
      · rwa [same]
      · exact not_below_of_vacant (vacant other member same)
          (passable_congr seen.symm passable).exists_node
    rw [changed.sight place notIn, seen]
  exact (spares left location enters).mono includes changed.working

/-! ## Jobs that stage nothing -/

theorem makeStaging_failed (works : job.WorksIn directory name) (sound : world.files.Sound)
    (enters : world.files.Enters directory.bytes left location)
    (spares : world.files.Spares directory.bytes (suffixed name ".temp"))
    (fits : Fits job.output.path.staging.bytes)
    (failed : outcome (makeStaging job.output.path.staging) world = (.error error, after)) :
    ChangedIn location [suffixed name ".temp"] world.files after.files ∧
      after.files.Enters directory.bytes left location ∧
        ∀ cause, error ≠ .update job.output.path cause := by
  have bytes := works.staging_bytes
  have named := works.named ".temp" (by decide)
  have entryFits : Fits (directory.bytes ++ slashByte :: suffixed name ".temp") := bytes ▸ fits
  rw [makeStaging, outcome_bind, removeTree, outcome_onFiles, bytes] at failed
  cases removed : outcome (ifThere (FileOperation.removeTree
      (directory.bytes ++ slashByte :: suffixed name ".temp"))) world.files with
  | mk result bare =>
      rw [removed] at failed
      rcases removeTree_spared enters works.ends named entryFits sound spares removed with
        ⟨rfl, changed, entersBare, vacant⟩ | ⟨⟨cause, rfl⟩, rfl⟩
      · simp only [mapError_ok] at failed
        rw [outcome_onFiles, entersBare.makeDirectories_vacant works.ends works.noSlash named bytes
          (works.parent ".temp" (by decide)) fits vacant] at failed
        split at failed
        · cases (Prod.mk.inj failed).1
        · rcases Prod.mk.inj failed with ⟨same, rfl⟩
          rcases Except.error.inj same with rfl
          exact ⟨changed, entersBare, by simp⟩
      · rcases Prod.mk.inj failed with ⟨same, rfl⟩
        rcases Except.error.inj same with rfl
        exact ⟨.refl .., enters, by simp⟩

theorem runCompiler_failed {program : String} {arguments : List String}
    (failed : outcome (runCompiler programs program arguments) world = (.error error, after)) :
    ∀ cause, error ≠ .update path cause := by
  rw [outcome_runCompiler] at failed
  rcases Prod.mk.inj failed with ⟨counted, -⟩
  simp only [verdict] at counted
  split at counted
  · rcases Except.error.inj counted with rfl
    simp
  · split at counted
    · cases counted
    · rcases Except.error.inj counted with rfl
      simp

/-! ## Jobs that have staged something -/

theorem depfile_ne_output (works : job.WorksIn directory name) : job.depfile ≠ job.output.path := by
  intro same
  have bytes := works.depfile_bytes
  rw [same, works.output] at bytes
  exact suffixed_ne_self (by decide) (List.cons.inj (List.append_cancel_left bytes)).2.symm

theorem apart_staging : Apart location [suffixed name ".temp"]
    (location ++ [suffixed name ".tmp"]) :=
  apart_other (by simp [suffixed_ne]) []

theorem unshared_of_missing {files : FileSystem} {place : Location}
    (missing : files.node? place = none) : files.Unshared place := by
  intro node found
  rw [missing] at found
  cases found

section

variable (works : job.WorksIn directory name)
  (staged : Staged directory name parents world.files left location)
  (isArchive : job.output = .archive path)
  (missing : world.files.node? (location ++ [suffixed name ".tmp"]) = none)
include works staged isArchive missing

theorem unpublished_tells (sound : parents.Sound)
    (spares : parents.Spares directory.bytes (suffixed name ".temp"))
    (failed : outcome (publish job.output.path.staging job.output) world = (.error error, middle)) :
    job.TellsUnfinished (.error error)
      (outcome (removeTree job.output.path.staging) middle).2.files := by
  have publishes : publish job.output.path.staging job.output =
      publishArchive job.output.path.staging job.output.path := by
    rw [isArchive]
    rfl
  have unshared := unshared_of_missing missing
  rw [publishes] at failed
  rcases publishArchive_staged works staged unshared failed with
    ⟨succeeded, -⟩ | ⟨_, same, changed, includes, unpublished⟩
  · cases succeeded
  rcases Except.error.inj same with rfl
  have enters := staged.enters.mono includes changed.working
  have clearing := removeTree_changed enters works (changed.sound staged.sound) staged.fits
  have whole : ChangedIn location [suffixed name ".temp", suffixed name ".tmp"] parents
      (outcome (removeTree job.output.path.staging) middle).2.files :=
    ((staged.changed.mono (by simp)).trans (changed.mono (by simp))).trans (clearing.mono (by simp))
  have entersAfter := enters_of_spared sound spares staged.enteredBefore whole (by
    intro other member different
    rcases List.mem_cons.1 member with rfl | member
    · exact absurd rfl different
    · rw [List.mem_singleton.1 member, ← sight?_eq_none, ← staged.changed.sight _ apart_staging,
        sight?_eq_none, missing])
  have stays := clearing.sight _ apart_staging
  cases unpublished with
  | unwritten other gone =>
      have removed : middle.files.node? (location ++ [suffixed name ".tmp"]) = none := by
        apply gone.resolve_left
        rintro ⟨entries, found⟩
        rw [missing] at found
        cases found
      rw [sight?_eq_none.2 removed, sight?_eq_none] at stays
      exact tells_of_absent (absent_of_enters works entersAfter stays) other
  | refused cause found =>
      rw [sight?_of_node? found] at stays
      have found := (sight?_eq_file.1 stays).1
      rw [TellsUnfinished, works.unfinished_bytes, locate_entry entersAfter works.ends
        (works.named ".tmp" (by decide)) (staged.fits_suffixed ".tmp" (by decide)) _ found]
      exact ⟨fun _ => .inl ⟨cause, rfl⟩, fun _ => rfl⟩

/-- An archive that is published has left its place. What may be there after that is the dependency
file. -/
theorem published_tells
    (succeeded : outcome (publish job.output.path.staging job.output) world = (.ok (), middle))
    (finished : outcome job.finish (outcome (removeTree job.output.path.staging) middle).2 =
      (result, after)) :
    job.TellsUnfinished result after.files := by
  have fits := staged.fits_suffixed ".tmp" (by decide)
  have unshared := unshared_of_missing missing
  have published := published_of_publish works staged (fun _ _ => unshared) succeeded
  generalize removes : (outcome (removeTree job.output.path.staging) middle).2 = cleared at finished
  rcases removeStaging_published works staged published (congrArg World.files removes) with
    ⟨clearing, entered⟩
  have gone : cleared.files.node? (location ++ [suffixed name ".tmp"]) = none := by
    rw [← sight?_eq_none, clearing.sight _ apart_staging, sight?_eq_none]
    exact published.unfinished path isArchive
  cases result with
  | error cause =>
      rcases finish_failed works staged.fits finished with ⟨same, failed⟩
      rw [same]
      apply tells_of_absent
      · apply absent_of_vacant works
        intro otherLeft other enters
        rcases enters.unique (entered otherLeft other enters).1 with ⟨rfl, -⟩
        exact gone
      · intro reason isUpdate
        rcases failed with ⟨target, -, rfl⟩ | ⟨_, rfl⟩
        · cases isUpdate
        · exact depfile_ne_output works (JobError.update.inj isUpdate).1
  | ok =>
      have found := (finish_ok finished).1
      rcases List.exists_cons_of_ne_nil job.targets_ne_nil with ⟨first, rest, isTargets⟩
      have isTarget : first ∈ job.targets := isTargets ▸ List.mem_cons_self
      rcases enters_of_target works isTarget (found first isTarget) with
        ⟨otherLeft, other, entersSomewhere⟩
      have enters := (entered otherLeft other entersSomewhere).1
      rcases finish_adds job (clearing.sound (published.changed.sound staged.sound)) with
        ⟨above, isAbove, adds⟩
      rw [makeParent_depfile works enters (staged.fits.above works.ends.ne_nil), or_self] at isAbove
      rw [isAbove, finished] at adds
      have reaches := enters.reaches works.ends.ne_nil (works.named ".tmp" (by decide)) fits
      rw [← works.unfinished_bytes] at reaches
      constructor
      · intro there
        rcases adds.leadsToEntry reaches gone there with ⟨_, rfl, leads⟩
        exact .inr ⟨rfl, leads⟩
      · rintro (⟨reason, failed⟩ | ⟨-, place, node, -, located⟩)
        · cases failed
        · rw [located]
          rfl

theorem release_tells (sound : parents.Sound)
    (spares : parents.Spares directory.bytes (suffixed name ".temp")) :
    job.TellsUnfinished (outcome job.release world).1 (outcome job.release world).2.files := by
  rw [outcome_release]
  cases publishes : outcome (publish job.output.path.staging job.output) world with
  | mk published middle =>
      cases published with
      | error error => exact unpublished_tells works staged isArchive missing sound spares publishes
      | ok => exact published_tells works staged isArchive missing publishes rfl

end

/-! ## Whole jobs -/

section

variable (works : job.WorksIn directory name) (sound : world.files.Sound)
  (enters : world.files.Enters directory.bytes left location)
  (spares : world.files.Spares directory.bytes (suffixed name ".temp"))
  (vacant : world.files.node? (location ++ [suffixed name ".tmp"]) = none)
include works sound enters spares vacant

theorem unmade_tells (fits : Fits job.output.path.staging.bytes)
    (failed : outcome (makeStaging job.output.path.staging) world = (.error error, after)) :
    job.TellsUnfinished (.error error) after.files := by
  rcases makeStaging_failed works sound enters spares fits failed with ⟨changed, entersThen, other⟩
  apply tells_of_absent _ other
  apply absent_of_enters works entersThen
  rw [← sight?_eq_none, changed.sight _ apart_staging, sight?_eq_none, vacant]

theorem uncompiled_tells {staging : Location}
    (staged : Staged directory name world.files middle.files left staging)
    (other : ∀ cause, error ≠ .update job.output.path cause) :
    job.TellsUnfinished (.error error)
      (outcome (removeTree job.output.path.staging) middle).2.files := by
  rcases enters.unique staged.enteredBefore with ⟨rfl, -⟩
  have clearing := removeTree_changed staged.enters works staged.sound staged.fits
  have whole := staged.changed.trans clearing
  apply tells_of_absent _ other
  apply absent_of_enters works (enters_of_spared sound spares enters whole (by simp))
  rw [← sight?_eq_none, whole.sight _ apart_staging, sight?_eq_none, vacant]

end

section

variable (works : job.WorksIn directory name) (isArchive : job.output = .archive path)
  (confined : StaysBelow programs job.command job.output.path.staging)
include works isArchive confined

theorem afterParents_tells (sound : world.files.Sound) {program : String}
    {arguments : List String} (words : Text.words job.xsdc = program :: arguments)
    (enters : world.files.Enters directory.bytes left location)
    (spares : world.files.Spares directory.bytes (suffixed name ".temp"))
    (free : isFound (world.files.locate false job.output.path.unfinished.bytes) = false) :
    job.TellsUnfinished (outcome (job.afterParents programs program arguments) world).1
      (outcome (job.afterParents programs program arguments) world).2.files := by
  by_cases fits : Fits job.output.path.staging.bytes
  · have tempFits : Fits (directory.bytes ++ slashByte :: suffixed name ".temp") :=
      works.staging_bytes ▸ fits
    have vacant : world.files.node? (location ++ [suffixed name ".tmp"]) = none := by
      cases found : world.files.node? (location ++ [suffixed name ".tmp"]) with
      | none => rfl
      | some node =>
          rw [works.unfinished_bytes, locate_entry enters works.ends
            (works.named ".tmp" (by decide)) (fits_suffixed tempFits (by decide)) node found]
            at free
          cases free
    rw [outcome_afterParents]
    generalize makes : outcome (makeStaging job.output.path.staging) world = making
    rcases making with ⟨made, empty⟩
    cases made with
    | error cause => exact unmade_tells works sound enters spares vacant fits makes
    | ok =>
        rcases makeStaging_empty works sound enters spares makes with ⟨staged, permissions, found⟩
        simp only
        generalize compiles : outcome (runCompiler programs program (arguments ++
          [job.schema.text, job.packageName, job.output.path.staging.text] ++ job.args)) empty =
            compiling
        rcases compiling with ⟨compiled, stagedWorld⟩
        have files := runCompiler_files programs program (arguments ++
          [job.schema.text, job.packageName, job.output.path.staging.text] ++ job.args) empty
        rw [compiles, command_eq words] at files
        have stagedThen := staged.compiled works found confined files
        cases compiled with
        | error cause =>
            exact uncompiled_tells works sound enters spares vacant stagedThen
              (runCompiler_failed compiles)
        | ok =>
            have missing : stagedWorld.files.node? (location ++ [suffixed name ".tmp"]) = none := by
              rw [← sight?_eq_none, stagedThen.changed.sight _ apart_staging, sight?_eq_none,
                vacant]
            exact release_tells works stagedThen isArchive missing sound spares
  · rcases afterParents_unfit fits with ⟨cause, refused⟩
    rw [refused]
    exact tells_of_absent free (by simp)

end

theorem directory_ne_output (works : job.WorksIn directory name) : directory ≠ job.output.path := by
  intro same
  have lengths := congrArg List.length works.output
  rw [← same, List.length_append] at lengths
  simp at lengths

/-- When a planned job for an archive ends, the unfinished archive is there exactly if the job
failed because it could not take the place of the output, provided that it was not there once the
directory of the module was made, and that the way to this directory does not lead through the
staging directory. The only other thing that can be there is the dependency file of a job that
succeeds, if a link leads it there. -/
theorem run_leaves_unfinished_iff {schema : Schema} {root : Path} {plan : Plan} {action : Action}
    {xsdc : String} (planned : schema.plan root = .ok plan) (member : action ∈ plan.actions)
    (isJob : job = .ofAction action xsdc) (isArchive : job.output = .archive path)
    (sound : world.files.Sound)
    (confined : StaysBelow programs job.command job.output.path.staging)
    (spares : (job.parents world).files.Spares (schema.directory root).bytes
      (suffixed action.language.outputName ".temp"))
    (free : isFound ((job.parents world).files.locate false path.unfinished.bytes) = false) :
    isFound ((outcome (job.run programs) world).2.files.locate false path.unfinished.bytes) =
        true ↔
      (∃ cause, (outcome (job.run programs) world).1 = .error (.update path cause)) ∨
        (outcome (job.run programs) world).1 = .ok () ∧
          (outcome (job.run programs) world).2.files.LeadsToEntry job.depfile.bytes
            path.unfinished.bytes := by
  have works : job.WorksIn (schema.directory root) action.language.outputName :=
    isJob ▸ Schema.worksIn_of_plan planned member xsdc
  have isPath : job.output.path = path := by
    rw [isArchive]
    rfl
  rw [← isPath] at free ⊢
  change job.TellsUnfinished _ _
  cases words : Text.words job.xsdc with
  | nil =>
      rw [run, words]
      apply tells_of_absent _ (by simp)
      rw [← Bool.not_eq_true] at free ⊢
      intro found
      have retains := (makeParent_adds job.output.path world).toRetains
      exact free (retains.isFound
        (job.output.path.last_withSuffix (by decide) (by decide +kernel)) found)
  | cons program arguments =>
      rw [outcome_run_of_words words]
      generalize makes : outcome (makeParent job.output.path) world = making
      rcases making with ⟨made, parents⟩
      have same : job.parents world = parents := by rw [Job.parents, makes]
      rw [same] at spares free
      cases made with
      | error error =>
          apply tells_of_absent free
          rw [makeParent_eq works.parent_output works.ends.ne_nil, outcome_onFiles] at makes
          rcases Prod.mk.inj makes with ⟨failed, -⟩
          cases reason : (outcome (FileOperation.makeDirectories (schema.directory root))
              world.files).1 with
          | ok =>
              rw [reason] at failed
              cases failed
          | error cause =>
              rw [reason, mapError_error] at failed
              rcases Except.error.inj failed with rfl
              intro other same
              exact directory_ne_output works (JobError.update.inj same).1
      | ok =>
          rcases makeParent_grown works.ends works.noSlash works.parent_output makes with
            ⟨grown, left, location, enters⟩
          exact afterParents_tells works isArchive confined (grown.sound sound) words enters spares
            free

/-! ## Sample runs -/

theorem sample_run_leaves_unfinished_iff :
    isFound ((outcome (sample.run generating) occupied).2.files.locate false
        (Path.unfinished ⟨"gen/foo/xsdcgen.srcjar"⟩).bytes) = true ↔
      (∃ cause, (outcome (sample.run generating) occupied).1 =
          .error (.update ⟨"gen/foo/xsdcgen.srcjar"⟩ cause)) ∨
        (outcome (sample.run generating) occupied).1 = .ok () ∧
          (outcome (sample.run generating) occupied).2.files.LeadsToEntry sample.depfile.bytes
            (Path.unfinished ⟨"gen/foo/xsdcgen.srcjar"⟩).bytes := by
  rcases sample_planned with ⟨plan, planned, actions⟩
  have member : CommandLine.sample.javaAction ⟨"gen"⟩ "com.foo" ∈ plan.actions :=
    actions ▸ List.mem_cons_self
  have parents : (sample.parents occupied).files = occupied.files := by decide +kernel
  exact run_leaves_unfinished_iff planned member rfl rfl (by decide +kernel) confined_sample
    (by rw [parents]; exact spares_sample rfl ⟨_, rfl⟩ _) (by decide +kernel)

/-- An archive that cannot take the place of its output, where a directory is, stays there. -/
theorem run_leaves_unfinished :
    (∃ plan, CommandLine.sample.plan ⟨"gen"⟩ = .ok plan ∧
      CommandLine.sample.javaAction ⟨"gen"⟩ "com.foo" ∈ plan.actions) ∧
    sample.output = .archive ⟨"gen/foo/xsdcgen.srcjar"⟩ ∧
    occupied.files.Sound ∧
    StaysBelow generating sample.command sample.output.path.staging ∧
    isFound (occupied.files.locate false
      (Path.unfinished ⟨"gen/foo/xsdcgen.srcjar"⟩).bytes) = false ∧
    (outcome (sample.run generating) occupied).1 =
      .error (.update ⟨"gen/foo/xsdcgen.srcjar"⟩ .isDirectory) ∧
    isFound ((outcome (sample.run generating) occupied).2.files.locate false
      (Path.unfinished ⟨"gen/foo/xsdcgen.srcjar"⟩).bytes) = true := by
  rcases sample_planned with ⟨plan, planned, actions⟩
  exact ⟨⟨plan, planned, actions ▸ List.mem_cons_self⟩, by decide +kernel, by decide +kernel,
    confined_sample, by decide +kernel, by decide +kernel, by decide +kernel⟩

end Job

end SchemaBuild
