import SchemaBuild.Proofs.FileSystem.Clearing
import SchemaBuild.Proofs.Job.Abandonment

/-!
# The end of staging directories

However a job ends, nothing is left at the path of the staging directory that it made. This holds
for an output at any path: the staging directory may be below the output, the way there may lead
through the output, and the unfinished archive may be a link that was there before.
-/

namespace SchemaBuild

open FileSystem

namespace Job

variable {programs : Programs} {job : Job} {root path : Path} {files bare middle : FileSystem}
  {world after : World} {left : Nat} {location : Location} {name : Name}

/-! ## Archives at any path -/

theorem openToWrite_opened {bytes : Bytes} {permissions : Nat} {opened : Opened}
    (opens : files.openToWrite bytes permissions = .ok (opened, middle)) :
    (∃ id, opened = .file id) ∨ (∃ device, opened = .device device) ∧ middle = files := by
  rw [openToWrite] at opens
  cases seeks : files.seek .writable bytes with
  | error error => simp [seeks, bind, Except.bind] at opens
  | ok found =>
      simp only [seeks, bind, Except.bind] at opens
      split at opens
      next id =>
        rcases Prod.mk.inj (Except.ok.inj opens) with ⟨rfl, -⟩
        exact .inl ⟨id, rfl⟩
      next => cases opens
      next device _ =>
        rcases Prod.mk.inj (Except.ok.inj opens) with ⟨rfl, rfl⟩
        exact .inr ⟨⟨device, rfl⟩, rfl⟩
      next => cases opens
      next => cases opens
      next =>
        split at opens
        · cases opens
        rcases Prod.mk.inj (Except.ok.inj opens) with ⟨rfl, -⟩
        exact .inl ⟨_, rfl⟩

theorem outcome_openArchive_device {device : Device}
    (opens : files.openToWrite path.bytes usualPermissions = .ok (.device device, middle)) :
    (outcome (openArchive path) files).2 = files ∧
      ((outcome (openArchive path) files).1 = .ok (.device device) ∨
        ∃ error, (outcome (openArchive path) files).1 = .error error) := by
  have same : middle = files := by
    rcases openToWrite_opened opens with ⟨id, isFile⟩ | ⟨-, same⟩
    · cases isFile
    · exact same
  rw [openArchive, outcome_bind, FileOperation.outcome_look, opens, same]
  cases device with
  | channel number =>
      simp only
      split
      · exact ⟨rfl, .inr ⟨_, rfl⟩⟩
      · exact ⟨rfl, .inl rfl⟩
  | _ => exact ⟨rfl, .inl rfl⟩

theorem writeArchive_device {entries : Directory}
    (listed : world.files.list root.bytes = .ok entries) {device : Device}
    (opens : outcome (openArchive path) world.files = (.ok (.device device), world.files)) :
    (outcome (writeArchive root path) world).2.files = world.files := by
  cases listable : areListable root entries with
  | false => rw [outcome_writeArchive_unlisted listed listable]
  | true =>
      rw [writeArchive, outcome_bind, outcome_onFiles, FileOperation.outcome_look, listed]
      simp only [mapError_ok, listable, if_true, outcome_bind, outcome_onFiles, opens, outcome_get]
      generalize archiveRefusal? world.isSilent (.device device) = refusal
      generalize
        (addEntries world.files root (.device device) refusal [] (collectFiles entries)).2 = failure
      cases refusal <;> cases failure <;> rfl

/-- Writing an archive adds nothing but the file of the archive. When it has succeeded, the entry
of the path leads to a file. -/
theorem writeArchive_adds (sound : world.files.Sound) {result : Except ArchiveError Unit}
    (written : outcome (writeArchive root path) world = (result, after)) :
    Adds (· = path) world.files after.files ∧
      (result = .ok () → ∀ left location name, world.files.Reaches path.bytes left location name →
        after.files.EndsInFile location name) := by
  have unchanged (same : after.files = world.files) (failed : result ≠ .ok ()) :
      Adds (· = path) world.files after.files ∧ (result = .ok () → ∀ left location name,
        world.files.Reaches path.bytes left location name →
          after.files.EndsInFile location name) :=
    ⟨same ▸ .refl _ _, fun succeeded => absurd succeeded failed⟩
  cases listed : world.files.list root.bytes with
  | error error =>
      rw [writeArchive, outcome_bind, outcome_onFiles, FileOperation.outcome_look, listed]
        at written
      rcases Prod.mk.inj written with ⟨rfl, rfl⟩
      exact unchanged rfl (by simp)
  | ok entries =>
  cases listable : areListable root entries with
  | false =>
      rw [outcome_writeArchive_unlisted listed listable] at written
      rcases Prod.mk.inj written with ⟨rfl, rfl⟩
      exact unchanged rfl (by simp)
  | true =>
  cases opens : world.files.openToWrite path.bytes usualPermissions with
  | error error =>
      rw [outcome_writeArchive_refused listed listable (outcome_openArchive_error opens)] at written
      rcases Prod.mk.inj written with ⟨rfl, rfl⟩
      exact unchanged rfl (by simp)
  | ok pair =>
      rcases pair with ⟨opened, opening⟩
      have adds := adds_of_openToWrite sound opens
      have ends {left : Nat} {location : Location} {name : Name}
          (reaches : world.files.Reaches path.bytes left location name) :=
        reaches.endsInFile sound opens
      rcases openToWrite_opened opens with ⟨id, rfl⟩ | ⟨⟨device, rfl⟩, rfl⟩
      · cases added : addEntries (opening.setContent id (.bytes [])) root (.file id) none []
            (collectFiles entries) with
        | mk archive failure =>
            rw [outcome_writeArchive_opened listed listable (outcome_openArchive_file opens) added]
              at written
            rcases Prod.mk.inj written with ⟨-, rfl⟩
            exact ⟨(adds.trans (adds_of_changeFile _ id _)).trans (adds_of_changeFile _ id _),
              fun _ left location name reaches => ((ends reaches).changeFile id _).changeFile id _⟩
      · rcases outcome_openArchive_device opens with ⟨same, opened | ⟨error, refused⟩⟩
        · have files := writeArchive_device listed (Prod.ext opened same)
          rw [written] at files
          rw [files]
          exact ⟨adds, fun _ left location name reaches => ends reaches⟩
        · rw [outcome_writeArchive_refused listed listable (Prod.ext refused same)] at written
          rcases Prod.mk.inj written with ⟨rfl, rfl⟩
          exact unchanged rfl (by simp)

/-! ## After publication -/

/-- Once a job has tried to publish, the staging directory is removed for good. -/
structure Clears (staging : Path) (result : Except JobError Unit) (files : FileSystem) : Prop where
  sound : files.Sound
  clear : (outcome (FileOperation.removeTree staging.bytes) files).2.Clear staging.bytes
  settled : result = .ok () →
    (outcome (FileOperation.removeTree staging.bytes) files).2.Settled staging.bytes

theorem clears_of_settled {staging : Path} {result : Except JobError Unit} (sound : files.Sound)
    (settled : (outcome (FileOperation.removeTree staging.bytes) files).2.Settled staging.bytes) :
    Clears staging result files :=
  ⟨sound, settled.clear, fun _ => settled⟩

/-- A job that fails has only removed what is no part of the staging directory. -/
theorem clears_of_shrunk {staging : Path} {error : JobError}
    (furnished : Furnished staging.bytes bare files left location name)
    (shrunk : Shrunk files middle) : Clears staging (.error error) middle := by
  have sound := shrunk.sound furnished.sound
  refine ⟨sound, clear_of_removeTree sound (furnished.directoryAtMost shrunk), ?_⟩
  intro succeeded
  cases succeeded

theorem publishDirectory_clears
    (furnished : Furnished path.staging.bytes bare world.files left location name)
    {result : Except JobError Unit}
    (published : outcome (publishDirectory path.staging path) world = (result, after)) :
    Clears path.staging result after.files := by
  have shrunk := removeTree_shrunk furnished.sound path.bytes
  rw [← removeTree_files] at shrunk
  rw [publishDirectory, outcome_bind] at published
  generalize outcome (removeTree path) world = removed at published shrunk
  rcases removed with ⟨removal, emptied⟩
  cases removal with
  | error error =>
      rcases Prod.mk.inj published with ⟨rfl, rfl⟩
      exact clears_of_shrunk furnished shrunk
  | ok =>
      simp only at published
      rw [outcome_onFiles, FileOperation.outcome_change] at published
      cases renamed : emptied.files.rename path.staging.bytes path.bytes with
      | error error =>
          rw [renamed] at published
          rcases Prod.mk.inj published with ⟨rfl, rfl⟩
          exact clears_of_shrunk furnished shrunk
      | ok files =>
          rw [renamed] at published
          rcases Prod.mk.inj published with ⟨-, rfl⟩
          have reaches := furnished.reaches
          rcases moved_of_rename renamed with rfl | ⟨old, new, own, other, node, moved⟩
          · rcases slot_of_rename renamed with ⟨slot, slotted⟩
            rcases reaches_of_slot reaches.named reaches.last reaches.noSlash slotted with
              ⟨otherLeft, there⟩
            exact clears_of_settled (shrunk.sound furnished.sound) (furnished.settled shrunk there)
          · exact clears_of_settled (moved.sound (shrunk.sound furnished.sound))
              (furnished.settled_of_moved shrunk moved)

theorem reaches_unfinished (reaches : files.Reaches path.staging.bytes left location name)
    {slot : Slot} {own : Name} (slotted : middle.slot path.unfinished.bytes = .ok slot)
    (last : slot.last = .name own) (short : own.length ≤ longestName) :
    files.Reaches path.unfinished.bytes left location own := by
  rcases path.names_withSuffix (show '/' ∉ ".temp".toList by decide) (by decide +kernel) with
    ⟨_, -, stagingNames, -⟩
  rcases path.names_withSuffix (show '/' ∉ ".tmp".toList by decide) (by decide +kernel) with
    ⟨_, -, names, noSlash⟩
  rcases leads_of_slot slotted last with ⟨proper, -, isLast, -⟩
  refine reaches.sibling ?_ ?_ ⟨proper, short⟩ isLast noSlash (fits_of_slot slotted)
  · rw [Path.unfinished, Path.staging, Path.bytes_withSuffix, Path.bytes_withSuffix]
    exact walkStart_append_noSlash (by decide +kernel) (by decide +kernel) _ _
  · rw [Path.unfinished, Path.staging, names, stagingNames, List.dropLast_concat,
      List.dropLast_concat]

theorem replaced_of_moved (reaches : files.Reaches path.staging.bytes left location name)
    {old new : Slot} {own other : Name} {node : Node} {published : FileSystem}
    (moved : Moved path.unfinished.bytes path.bytes files published old new own other node)
    (sound : files.Sound) (has : files.HasDirectory (location ++ [name]))
    (ends : files.EndsInFile location own) :
    Replaced location own other files published ∧ published.Sound ∧ name ≠ own ∧ name ≠ other ∧
      files.node? (location ++ [own]) = some node := by
  have slot := moved.slot
  rw [(reaches_unfinished reaches slot moved.last moved.short).slot] at slot
  rcases Except.ok.inj slot with rfl
  have found : files.node? (location ++ [own]) = some node := moved.found
  have leaf : node.isDirectory = false := by
    cases node with
    | directory entries => exact absurd ⟨entries, found⟩ ends.noDirectory
    | file | link | device => rfl
  rcases leads_of_slot moved.newSlot moved.newLast with ⟨proper, -, last, -⟩
  have noSlash : endsInSlash path.bytes = false :=
    (slash_of_slot moved.newSlot).symm.trans (moved.noSlash leaf)
  have reachesOutput : files.Reaches path.bytes left location other := by
    refine reaches.sibling ?_ ?_ ⟨proper, moved.newShort⟩ last noSlash (fits_of_slot moved.newSlot)
    · rw [Path.staging, Path.bytes_withSuffix, ← walkStart_append_noSlash List.not_mem_nil
        (show slashByte ∉ Bytes.ofString ".temp" by decide +kernel), List.append_nil]
    · rw [Path.staging, Path.bytes_withSuffix,
        pathNames_append_noSlash (by decide +kernel) last noSlash, List.dropLast_concat]
  have newSlot := moved.newSlot
  rw [reachesOutput.slot] at newSlot
  rcases Except.ok.inj newSlot with rfl
  have isMoved : published = (files.erase location own).put location other node := moved.moved
  have changed : ChangedIn location [own, other] files published :=
    isMoved ▸ .moved reaches.has found sound proper
  refine ⟨⟨changed.working, reaches.has, ends, ?_, ?_⟩, changed.sound sound, ?_, ?_, found⟩
  · rw [isMoved]
    exact node?_moved reaches.has found []
  · intro place entry apart here
    exact bare_of_sight? (changed.sight place apart) here
  · rintro rfl
    exact ends.noDirectory has
  · rintro rfl
    rcases has with ⟨entries, isDirectory⟩
    have replaces := moved.replaces
    rw [show files.node? (location ++ [name]) = _ from isDirectory, leaf] at replaces
    cases replaces

theorem publishArchive_clears
    (furnished : Furnished path.staging.bytes bare world.files left location name)
    {result : Except JobError Unit}
    (published : outcome (publishArchive path.staging path) world = (result, after)) :
    Clears path.staging result after.files := by
  rw [publishArchive, outcome_bind, outcome_run] at published
  cases written : outcome (writeArchive path.staging path.unfinished) world with
  | mk writing middle =>
      rcases writeArchive_adds furnished.sound written with ⟨adds, ends⟩
      have filled := furnished.adds adds
      rw [written] at published
      cases writing with
      | error error =>
          simp only at published
          have shrunk :
              Shrunk middle.files (outcome (removeFile path.unfinished) middle).2.files := by
            rw [removeFile, outcome_onFiles]
            simp only
            rw [ifThere_files]
            exact change_shrunk fun _ => unlink_shrunk filled.sound
          rw [outcome_bind] at published
          generalize outcome (removeFile path.unfinished) middle = removed at published shrunk
          rcases removed with ⟨removal, files⟩
          cases removal with
          | error error =>
              rcases Prod.mk.inj published with ⟨rfl, rfl⟩
              exact clears_of_shrunk filled shrunk
          | ok =>
              rcases Prod.mk.inj published with ⟨rfl, rfl⟩
              exact clears_of_shrunk filled shrunk
      | ok =>
          simp only at published
          rw [outcome_onFiles, FileOperation.outcome_change] at published
          cases renamed : middle.files.rename path.unfinished.bytes path.bytes with
          | error error =>
              rw [renamed] at published
              rcases Prod.mk.inj published with ⟨rfl, rfl⟩
              exact clears_of_shrunk filled (.refl _)
          | ok files =>
              rw [renamed] at published
              rcases Prod.mk.inj published with ⟨-, rfl⟩
              rcases moved_of_rename renamed with rfl | ⟨old, new, own, other, node, moved⟩
              · exact clears_of_settled filled.sound (filled.settled (.refl _) filled.there)
              · have reaches :=
                  reaches_unfinished furnished.there moved.slot moved.last moved.short
                rcases replaced_of_moved filled.there moved filled.sound filled.has
                  (ends rfl _ _ _ reaches) with ⟨replaced, sound, notOwn, notOther, still⟩
                exact clears_of_settled sound
                  (filled.settled_of_replaced replaced sound notOwn notOther ⟨node, still⟩)

theorem publish_clears {output : Publication}
    (furnished : Furnished output.path.staging.bytes bare world.files left location name)
    {result : Except JobError Unit}
    (published : outcome (publish output.path.staging output) world = (result, after)) :
    Clears output.path.staging result after.files := by
  cases output with
  | archive path => exact publishArchive_clears furnished published
  | directory path => exact publishDirectory_clears furnished published

/-! ## After the run -/

theorem finish_adds_onWay (job : Job) (sound : world.files.Sound) :
    Adds (·.IsOnWayTo job.depfile) world.files (outcome job.finish world).2.files := by
  rcases finish_adds job sound with ⟨parents, whose, adds⟩
  have onWay : Adds (·.IsOnWayTo job.depfile) parents.files (outcome job.finish world).2.files := by
    refine adds.mono fun path (same : path = job.depfile) => ?_
    rw [same]
    exact .whole job.depfile
  rcases whose with rfl | rfl
  · exact onWay
  · exact (makeParent_adds job.depfile world).trans onWay

theorem release_leaves_no_staging
    (furnished : Furnished job.output.path.staging.bytes bare world.files left location name)
    (apart : ∀ above : Path, above.IsOnWayTo job.depfile →
      ¬(outcome job.release world).2.files.LeadsToEntry above.bytes
        job.output.path.staging.bytes) :
    isFound ((outcome job.release world).2.files.locate false
      job.output.path.staging.bytes) = false := by
  have ends := last_staging job.output.path
  rw [outcome_release] at apart ⊢
  cases publishes : outcome (publish job.output.path.staging job.output) world with
  | mk result middle =>
      have clears := publish_clears furnished publishes
      rw [publishes] at apart
      cases result with
      | error error =>
          simp only
          rw [removeTree_files]
          exact clears.clear.isFound ends
      | ok =>
          simp only at apart ⊢
          have settled := clears.settled rfl
          have sound := (removeTree_shrunk clears.sound job.output.path.staging.bytes).sound
            clears.sound
          rw [← removeTree_files] at settled sound
          have adds := finish_adds_onWay job sound
          exact settled.isFound ends adds (adds.sound sound) apart

structure MakesStaging (job : Job) (world : World) : Prop where
  command : Text.words job.xsdc ≠ []
  parents : (outcome (makeParent job.output.path) world).1 = .ok ()
  staging : (outcome (makeStaging job.output.path.staging) (job.parents world)).1 = .ok ()

/-- However a job ends that made its staging directory, nothing is at the path of the staging
directory afterwards. The way to it must not lead through it, and it must not be what the
dependency file's path, or one above, leads to when the job has ended. -/
theorem run_leaves_no_staging (programs : Programs) (job : Job) (world : World)
    (sound : world.files.Sound)
    (confined : StaysBelow programs job.command job.output.path.staging)
    (spares : (job.parents world).files.SparesEntry job.output.path.staging.bytes)
    (makes : job.MakesStaging world)
    (apart : ∀ above : Path, above.IsOnWayTo job.depfile →
      ¬(outcome (job.run programs) world).2.files.LeadsToEntry above.bytes
        job.output.path.staging.bytes) :
    isFound ((outcome (job.run programs) world).2.files.locate false
      job.output.path.staging.bytes) = false := by
  rcases List.exists_cons_of_ne_nil makes.command with ⟨program, arguments, words⟩
  have made : outcome (makeParent job.output.path) world = (.ok (), job.parents world) :=
    Prod.ext makes.parents rfl
  have clears : outcome (makeStaging job.output.path.staging) (job.parents world) = (.ok (),
      (outcome (makeStaging job.output.path.staging) (job.parents world)).2) :=
    Prod.ext makes.staging rfl
  generalize (outcome (makeStaging job.output.path.staging) (job.parents world)).2 = empty at clears
  rcases makeStaging_cleared sound made spares clears with
    ⟨grown, bare, left, location, name, permissions, cleared⟩
  have grownSound := cleared.grown.sound sound
  have ends := last_staging job.output.path
  have runs : outcome (job.run programs) world =
      outcome (job.afterParents programs program arguments) (job.parents world) := by
    rw [outcome_run_of_words words, made]
  rw [runs, outcome_afterParents, clears] at apart ⊢
  simp only at apart ⊢
  have compiles := runCompiler_files programs program (arguments ++
    [job.schema.text, job.packageName, job.output.path.staging.text] ++ job.args) empty
  rw [command_eq words] at compiles
  generalize outcome (runCompiler programs program (arguments ++
    [job.schema.text, job.packageName, job.output.path.staging.text] ++ job.args)) empty = ran
    at apart compiles ⊢
  rcases ran with ⟨result, compiled⟩
  cases result with
  | error error =>
      rcases (abandoned_of_cleared grownSound cleared confined compiles).reaches with
        ⟨otherLeft, reaches⟩
      have gone := (abandoned_of_cleared grownSound cleared confined compiles).gone
      exact (settled_of_vacant reaches gone).clear.isFound ends
  | ok =>
      have bareSound := cleared.changed.sound grownSound
      rcases compiled_of_cleared bareSound cleared confined compiles with ⟨changed, has⟩
      have furnished : Furnished job.output.path.staging.bytes bare compiled.files left location
          name :=
        ⟨bareSound, cleared.reaches, cleared.vacant,
          changed.includes (not_passable_of_vacant cleared.vacant), changed.working,
          changed.sound bareSound, has⟩
      exact release_leaves_no_staging furnished apart

theorem sample_run_leaves_no_staging :
    isFound ((outcome (sample.run generating) stale).2.files.locate false
      sample.output.path.staging.bytes) = false := by
  have parents : (sample.parents stale).files = stale.files := by decide +kernel
  refine run_leaves_no_staging generating sample stale (by decide +kernel) confined_sample ?_
    ⟨by decide +kernel, by decide +kernel, by decide +kernel⟩ ?_
  · rw [parents]
    exact sparesEntry_sample rfl ⟨_, rfl⟩
  · rintro above - ⟨place, node, -, located⟩
    have missing : isFound ((outcome (sample.run generating) stale).2.files.locate false
        sample.output.path.staging.bytes) = false := by decide +kernel
    rw [located] at missing
    cases missing

def misdirected : World where
  files := {
    root := .ofList [(Bytes.ofString "gen", .directory (.ofList [
      (Bytes.ofString "foo", .directory (.ofList [
        (Bytes.ofString "xsdcgen.srcjar.d",
          .link (Bytes.ofString "xsdcgen.srcjar.temp"))]))]))] }

/-- A job that succeeds writes its dependency file to where a link leads, which may be the path of
its staging directory. -/
theorem run_recreates_staging :
    (∃ plan, CommandLine.sample.plan ⟨"gen"⟩ = .ok plan ∧
      CommandLine.sample.javaAction ⟨"gen"⟩ "com.foo" ∈ plan.actions) ∧
    sample.depfile = ⟨"gen/foo/xsdcgen.srcjar.d"⟩ ∧
    sample.output.path.staging = ⟨"gen/foo/xsdcgen.srcjar.temp"⟩ ∧
    misdirected.files.Sound ∧
    StaysBelow generating sample.command sample.output.path.staging ∧
    sample.MakesStaging misdirected ∧
    (outcome (sample.run generating) misdirected).1 = .ok () ∧
    isFound ((outcome (sample.run generating) misdirected).2.files.locate false
      sample.output.path.staging.bytes) = true := by
  rcases sample_planned with ⟨plan, planned, actions⟩
  exact ⟨⟨plan, planned, actions ▸ List.mem_cons_self⟩, by decide +kernel, by decide +kernel,
    by decide +kernel, confined_sample, ⟨by decide +kernel, by decide +kernel, by decide +kernel⟩,
    by decide +kernel, by decide +kernel⟩

def winding : Job :=
  { sample with output := .archive ⟨"o.temp/s/../../o"⟩, depfile := ⟨"d"⟩ }

def diverting : Programs :=
  changing fun location files =>
    (files.erase location (Bytes.ofString "s")).put location (Bytes.ofString "s")
      (.link (Bytes.ofString "/x/y/z"))

def diverted : World where
  files := {
    root := .ofList [(Bytes.ofString "x", .directory (.ofList [
      (Bytes.ofString "o.temp", .file 0),
      (Bytes.ofString "y", .directory (.ofList [
        (Bytes.ofString "z", .directory (.ofList []))]))]))]
    stored := #[{ content := .ofString "kept" }] }

/-- When such a job has failed, its staging directory is still there, and its path leads to what was
elsewhere before. -/
theorem run_loses_staging :
    diverted.files.Sound ∧
    StaysBelow diverting winding.command winding.output.path.staging ∧
    winding.MakesStaging diverted ∧
    (outcome (winding.run diverting) diverted).1 =
      .error (.archive ⟨"o.temp/s/../../o"⟩ (.file .notDirectory)) ∧
    (outcome (winding.run diverting) diverted).2.files.isDirectory (Bytes.ofString "o.temp") =
      true ∧
    (outcome (winding.run diverting) diverted).2.files.read winding.output.path.staging.bytes =
      .ok (.ofString "kept") := by
  have confined : StaysBelow diverting winding.command winding.output.path.staging := by
    refine staysBelow_changing (fun location files sound has => ?_) (command_drop words_xsdc)
    exact (ChangedIn.linked sound has proper_s (Bytes.ofString "/x/y/z")).changedBelow
  exact ⟨by decide +kernel, confined, ⟨by decide +kernel, by decide +kernel, by decide +kernel⟩,
    by decide +kernel, by decide +kernel, by decide +kernel⟩

end Job

end SchemaBuild
