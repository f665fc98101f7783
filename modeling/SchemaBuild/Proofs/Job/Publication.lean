import SchemaBuild.Proofs.FileSystem.Writing
import SchemaBuild.Proofs.Job.Entries
import SchemaBuild.Proofs.Job.Staging

/-!
# Publication

What publishing changes, and what it leaves alone when it fails.
-/

namespace SchemaBuild

open FileSystem

namespace Publication

/-- What is published under the name of an output is what was staged: an archive of the staging
directory, or this directory itself. -/
def Holds (publication : Publication) (name : Name) (location : Location)
    (staged after : FileSystem) : Prop :=
  match publication with
  | .archive _ => ∃ id archive, after.node? (location ++ [name]) = some (.file id) ∧
      (after.storedAt id).content = .archive archive ∧
        Archives staged (location ++ [suffixed name ".temp"]) archive
  | .directory _ => ∀ rest, after.sight? (location ++ name :: rest) =
      staged.sight? (location ++ suffixed name ".temp" :: rest)

/-- The names of the entries that publishing may change: the output's and those of what is removed
again. -/
def touched (publication : Publication) (name : Name) : List Name :=
  match publication with
  | .archive _ => [name, suffixed name ".temp", suffixed name ".tmp"]
  | .directory _ => [name, suffixed name ".temp"]

theorem Holds.congr {publication : Publication} {name : Name} {location : Location}
    {staged after later : FileSystem}
    (same : ∀ rest, later.sight? (location ++ name :: rest) =
      after.sight? (location ++ name :: rest))
    (holds : publication.Holds name location staged after) :
    publication.Holds name location staged later := by
  cases publication with
  | archive path =>
      obtain ⟨id, archive, found, content, archives⟩ := holds
      obtain ⟨here, stored⟩ := sight?_eq_file.1 ((same []).trans (sight?_of_node? found))
      exact ⟨id, archive, here, by rw [stored, content], archives⟩
  | directory path => exact fun rest => (same rest).trans (holds rest)

end Publication

namespace Job

variable {directory : Path} {name : Name} {parents files : FileSystem} {world after : World}
  {left : Nat} {location : Location}

/-! ## Archives -/

theorem outcome_openArchive_error {path : Path} {error : FileError}
    (opens : files.openToWrite path.bytes usualPermissions = .error error) :
    outcome (openArchive path) files = (.error error, files) := by
  rw [openArchive, outcome_bind, FileOperation.outcome_look, opens]

theorem outcome_openArchive_file {path : Path} {id : FileId} {middle : FileSystem}
    (opens : files.openToWrite path.bytes usualPermissions = .ok (.file id, middle)) :
    outcome (openArchive path) files = (.ok (.file id), middle.setContent id (.bytes [])) := by
  rw [openArchive, outcome_bind, FileOperation.outcome_look, opens]
  rfl

theorem outcome_openArchive {path : Path} {files : FileSystem}
    (onlyFiles : ∀ opened middle, files.openToWrite path.bytes usualPermissions =
      .ok (opened, middle) → ∃ id, opened = .file id) :
    (∃ error, outcome (openArchive path) files = (.error error, files)) ∨
      ∃ id middle, files.openToWrite path.bytes usualPermissions = .ok (.file id, middle) ∧
        outcome (openArchive path) files = (.ok (.file id), middle.setContent id (.bytes [])) := by
  cases opens : files.openToWrite path.bytes usualPermissions with
  | error error => exact .inl ⟨error, outcome_openArchive_error opens⟩
  | ok pair =>
      obtain ⟨opened, middle⟩ := pair
      obtain ⟨id, rfl⟩ := onlyFiles opened middle opens
      exact .inr ⟨id, middle, rfl, outcome_openArchive_file opens⟩

section

variable {root path : Path} {entries : Directory}
  (listed : world.files.list root.bytes = .ok entries)
include listed

theorem outcome_writeArchive_unlisted (unlistable : areListable root entries = false) :
    outcome (writeArchive root path) world = (.error (.file .nameTooLong), world) := by
  rw [writeArchive, outcome_bind, outcome_onFiles, FileOperation.outcome_look, listed]
  simp [mapError_ok, unlistable, outcome_throw]

theorem outcome_writeArchive_refused (listable : areListable root entries = true)
    {error : FileError} (opens : outcome (openArchive path) world.files = (.error error, files)) :
    outcome (writeArchive root path) world =
      (.error (.file error), { world with files := files }) := by
  rw [writeArchive, outcome_bind, outcome_onFiles, FileOperation.outcome_look, listed]
  simp [mapError_ok, listable, outcome_bind, outcome_onFiles, opens, mapError_error]

theorem outcome_writeArchive_opened (listable : areListable root entries = true) {id : FileId}
    (opens : outcome (openArchive path) world.files = (.ok (.file id), files))
    {archive : Archive} {failure : Option ArchiveError}
    (added : addEntries files root (.file id) none [] (collectFiles entries) =
      (archive, failure)) :
    outcome (writeArchive root path) world =
      (failure.elim (.ok ()) .error,
        { world with files := files.setContent id (.archive archive) }) := by
  rw [writeArchive, outcome_bind, outcome_onFiles, FileOperation.outcome_look, listed]
  simp only [mapError_ok, listable, if_true, outcome_bind, outcome_onFiles, opens, outcome_get,
    archiveRefusal?, added]
  cases failure <;> rfl

theorem outcome_writeArchive
    (onlyFiles : ∀ opened middle, world.files.openToWrite path.bytes usualPermissions =
      .ok (opened, middle) → ∃ id, opened = .file id)
    {result : Except ArchiveError Unit}
    (written : outcome (writeArchive root path) world = (result, after)) :
    (∃ error, result = .error error) ∧ after.files = world.files ∨
      ∃ id middle archive failure,
        world.files.openToWrite path.bytes usualPermissions = .ok (.file id, middle) ∧
          addEntries (middle.setContent id (.bytes [])) root (.file id) none []
            (collectFiles entries) = (archive, failure) ∧
          after.files = (middle.setContent id (.bytes [])).setContent id (.archive archive) ∧
          (result = .ok () → failure = none) := by
  cases listable : areListable root entries with
  | false =>
      rw [outcome_writeArchive_unlisted listed listable] at written
      obtain ⟨rfl, rfl⟩ := Prod.mk.inj written
      exact .inl ⟨⟨_, rfl⟩, rfl⟩
  | true =>
      rcases outcome_openArchive onlyFiles with ⟨error, opens⟩ | ⟨id, middle, opens, opened⟩
      · rw [outcome_writeArchive_refused listed listable opens] at written
        obtain ⟨rfl, rfl⟩ := Prod.mk.inj written
        exact .inl ⟨⟨_, rfl⟩, rfl⟩
      · cases added : addEntries (middle.setContent id (.bytes [])) root (.file id) none []
            (collectFiles entries) with
        | mk archive failure =>
            rw [outcome_writeArchive_opened listed listable opened added] at written
            obtain ⟨rfl, rfl⟩ := Prod.mk.inj written
            refine .inr ⟨id, middle, archive, failure, opens, added, rfl, fun succeeded => ?_⟩
            cases failure with
            | none => rfl
            | some error => cases succeeded

end

variable {job : Job}

/-- The file of an archive is no entry of the staging directory, so writing to it changes nothing of
what is archived. -/
theorem archives_of_unfinished (works : job.WorksIn directory name) {emptied : FileSystem}
    (enters : emptied.Enters directory.bytes left location) (sound : files.Sound)
    (changed : ChangedIn location [suffixed name ".tmp"] files emptied) {id : FileId}
    (only : emptied.IsOnlyName (location ++ [suffixed name ".tmp"]) id) {entries : Directory}
    (found : emptied.node? (location ++ [suffixed name ".temp"]) = some (.directory entries))
    {archive : Archive}
    (added : addEntries emptied job.output.path.staging (.file id) none []
      (collectFiles entries) = (archive, none)) :
    Archives files (location ++ [suffixed name ".temp"]) archive := by
  have apart (names : Location) : Apart location [suffixed name ".tmp"]
      (location ++ [suffixed name ".temp"] ++ names) := by
    rw [List.append_assoc, List.singleton_append]
    refine apart_other ?_ names
    rw [List.mem_singleton]
    exact suffixed_ne (by decide)
  have stagingEnters := Enters.below enters works.ends.ne_nil (works.named ".temp" (by decide))
    ⟨entries, found⟩
  rw [← works.staging_bytes] at stagingEnters
  have unlisted (names : Location) :
      emptied.node? (location ++ [suffixed name ".temp"] ++ names) ≠ some (.file id) := by
    intro listed
    have same := only.only _ listed
    exact apart names _ (List.mem_singleton_self _) (same ▸ List.prefix_refl _)
  have archives := archives_of_addEntries (changed.sound sound) stagingEnters
    job.output.path.getLast?_staging (by decide) found unlisted added
  exact archives.congr fun names => (changed.sight _ (apart names)).symm

/-- What was written of an archive of the staging directory: only the unfinished archive was
changed, if it could be opened, and if all could be written, it holds what was staged. -/
theorem writeArchive_staged (works : job.WorksIn directory name)
    (staged : Staged directory name parents world.files left location)
    (unshared : world.files.Unshared (location ++ [suffixed name ".tmp"]))
    {result : Except ArchiveError Unit}
    (written : outcome (writeArchive job.output.path.staging job.output.path.unfinished) world =
      (result, after)) :
    ChangedIn location [suffixed name ".tmp"] world.files after.files ∧
      after.files.Includes world.files ∧
      (after.files = world.files ∨
        ∃ id, after.files.IsOnlyName (location ++ [suffixed name ".tmp"]) id) ∧
      (result = .ok () → ∃ id archive,
        after.files.IsOnlyName (location ++ [suffixed name ".tmp"]) id ∧
          (after.files.storedAt id).content = .archive archive ∧
            Archives world.files (location ++ [suffixed name ".temp"]) archive) := by
  have stagingNamed := works.named ".temp" (by decide)
  have partialNamed := works.named ".tmp" (by decide)
  have partialFits := staged.fits_suffixed ".tmp" (by decide)
  obtain ⟨entries, found⟩ := staged.has
  have listed : world.files.list job.output.path.staging.bytes = .ok entries := by
    rw [list, locate, if_pos rfl, works.staging_bytes,
      seek_node staged.enters works.ends stagingNamed staged.fits .target (by simp) found]
    rfl
  have onlyFiles (opened : Opened) (middle : FileSystem)
      (opens : world.files.openToWrite job.output.path.unfinished.bytes usualPermissions =
        .ok (opened, middle)) : ∃ id, opened = .file id := by
    rw [works.unfinished_bytes] at opens
    obtain ⟨id, isFile, -⟩ := openToWrite_unshared staged.enters works.ends partialNamed
      partialFits staged.sound unshared opens
    exact ⟨id, isFile⟩
  rcases outcome_writeArchive listed onlyFiles written with
    ⟨⟨error, rfl⟩, same⟩ | ⟨id, middle, archive, failure, opens, added, files, succeeds⟩
  · rw [same]
    exact ⟨.refl .., .refl _, .inl rfl, fun succeeded => by cases succeeded⟩
  · rw [works.unfinished_bytes] at opens
    obtain ⟨_, same, only, opened, includes, beside, -⟩ := openToWrite_unshared staged.enters
      works.ends partialNamed partialFits staged.sound unshared opens
    obtain rfl := Opened.file.inj same
    have enters := staged.enters.mono includes opened.working
    have emptied : ChangedIn location [suffixed name ".tmp"] world.files
        (middle.setContent id (.bytes [])) := opened.trans (.changeFile only _)
    have emptiedOnly : (middle.setContent id (.bytes [])).IsOnlyName
        (location ++ [suffixed name ".tmp"]) id := only.changeFile _
    have changed := emptied.trans (.changeFile emptiedOnly fun file =>
      { file with content := .archive archive, time := presentTime })
    have filled := emptiedOnly.changeFile fun file =>
      { file with content := .archive archive, time := presentTime }
    rw [files]
    refine ⟨changed, (includes.changeFile id _).changeFile id _, .inr ⟨id, filled⟩,
      fun succeeded => ?_⟩
    obtain rfl := succeeds succeeded
    have stagedFound : (middle.setContent id (.bytes [])).node?
        (location ++ [suffixed name ".temp"]) = some (.directory entries) := by
      rw [setContent, node?_changeFile, beside _ [] (suffixed_ne (by decide)), found]
    exact ⟨id, archive, filled, emptiedOnly.storedAt_setContent (emptied.sound staged.sound) _,
      archives_of_unfinished works (enters.changeFile id _) staged.sound emptied emptiedOnly
        stagedFound added⟩

inductive Unpublished (output : Path) (place : Location) (before after : FileSystem) :
    JobError → Prop
  | unwritten {error : JobError} (other : ∀ cause, error ≠ .update output cause)
      (gone : before.HasDirectory place ∨ after.node? place = none) :
      Unpublished output place before after error
  | refused {id : FileId} (cause : FileError) (stays : after.node? place = some (.file id)) :
      Unpublished output place before after (.update output cause)

theorem removeUnfinished_failed (works : job.WorksIn directory name)
    (enters : world.files.Enters directory.bytes left location)
    (fits : Fits (directory.bytes ++ slashByte :: suffixed name ".tmp"))
    (sound : world.files.Sound)
    (unshared : world.files.Unshared (location ++ [suffixed name ".tmp"]))
    {error : ArchiveError} {result : Except JobError Unit}
    (removed : outcome (do
      removeFile job.output.path.unfinished
      throw (.archive job.output.path error)) world = (result, after)) :
    ∃ failure, result = .error failure ∧
      (∀ cause, failure ≠ .update job.output.path cause) ∧
        ChangedIn location [suffixed name ".tmp"] world.files after.files ∧
          after.files.Includes world.files ∧
            (world.files.HasDirectory (location ++ [suffixed name ".tmp"]) ∨
              after.files.node? (location ++ [suffixed name ".tmp"]) = none) := by
  rw [outcome_bind, removeFile, outcome_onFiles, works.unfinished_bytes] at removed
  generalize tried : outcome (ifThere (FileOperation.change fun files =>
    files.unlink (directory.bytes ++ slashByte :: suffixed name ".tmp"))) world.files = attempt
    at removed
  obtain ⟨removal, files⟩ := attempt
  have unlinked := unlink_unshared enters works.ends (works.named ".tmp" (by decide)) fits sound
    unshared tried
  cases removal <;> obtain ⟨rfl, rfl⟩ := Prod.mk.inj removed <;>
    exact ⟨_, rfl, by simp, unlinked⟩

/-- An archive is published, or nothing was changed but the unfinished archive. -/
theorem publishArchive_staged (works : job.WorksIn directory name)
    (staged : Staged directory name parents world.files left location)
    (unshared : world.files.Unshared (location ++ [suffixed name ".tmp"]))
    {result : Except JobError Unit}
    (published : outcome (publishArchive job.output.path.staging job.output.path) world =
      (result, after)) :
    result = .ok () ∧ ChangedIn location [suffixed name ".tmp", name] world.files after.files ∧
        after.files.node? (location ++ [suffixed name ".tmp"]) = none ∧
        (∃ id archive, after.files.IsOnlyName (location ++ [name]) id ∧
          (after.files.storedAt id).content = .archive archive ∧
            Archives world.files (location ++ [suffixed name ".temp"]) archive) ∨
      ∃ error, result = .error error ∧
        ChangedIn location [suffixed name ".tmp"] world.files after.files ∧
          after.files.Includes world.files ∧
            Unpublished job.output.path (location ++ [suffixed name ".tmp"]) world.files
              after.files error := by
  have partialNamed := works.named ".tmp" (by decide)
  have partialFits := staged.fits_suffixed ".tmp" (by decide)
  rw [publishArchive, outcome_bind, outcome_run] at published
  cases written : outcome (writeArchive job.output.path.staging job.output.path.unfinished) world
    with
  | mk writing middle =>
      obtain ⟨changed, includes, opened, holds⟩ :=
        writeArchive_staged works staged unshared written
      have enters := staged.enters.mono includes changed.working
      have middleSound := changed.sound staged.sound
      rw [written] at published
      cases writing with
      | error error =>
          have stillUnshared : middle.files.Unshared (location ++ [suffixed name ".tmp"]) := by
            rcases opened with same | ⟨id, only⟩
            · exact same ▸ unshared
            · exact only.unshared
          obtain ⟨failure, rfl, other, erased, includesThen, gone⟩ :=
            removeUnfinished_failed works enters partialFits middleSound stillUnshared published
          refine .inr ⟨failure, rfl, changed.trans erased, includes.trans includesThen,
            .unwritten other (gone.imp_left fun has => ?_)⟩
          rcases opened with same | ⟨id, only⟩
          · exact same ▸ has
          · obtain ⟨entries, isDirectory⟩ := has
            rw [only.here] at isDirectory
            cases isDirectory
      | ok =>
          obtain ⟨id, archive, only, content, archives⟩ := holds rfl
          simp only at published
          rw [outcome_onFiles, FileOperation.outcome_change, works.unfinished_bytes, works.output]
            at published
          cases renamed : middle.files.rename
              (directory.bytes ++ slashByte :: suffixed name ".tmp")
              (directory.bytes ++ slashByte :: name) with
          | error error =>
              rw [renamed] at published
              obtain ⟨rfl, rfl⟩ := Prod.mk.inj published
              exact .inr ⟨_, rfl, changed, includes, .refused error only.here⟩
          | ok files =>
              rw [renamed] at published
              obtain ⟨rfl, rfl⟩ := Prod.mk.inj published
              obtain ⟨moved, gone, onlyThen, stored⟩ := rename_onlyName enters works.ends
                partialNamed partialFits middleSound works.named_output staged.fits_output
                (suffixed_ne_self (by decide)) only renamed
              exact .inl ⟨rfl, (changed.mono (by simp)).trans moved, gone, id, archive, onlyThen,
                stored ▸ content, archives⟩

/-! ## Directories -/

theorem publishDirectory_ok (works : job.WorksIn directory name)
    (staged : Staged directory name parents world.files left location)
    (published : outcome (publishDirectory job.output.path.staging job.output.path) world =
      (.ok (), after)) :
    ∃ bare node, ChangedIn location [name] world.files bare ∧
      bare.Enters directory.bytes left location ∧ bare.node? (location ++ [name]) = none ∧
        bare.node? (location ++ [suffixed name ".temp"]) = some node ∧
          after.files = (bare.erase location (suffixed name ".temp")).put location name node := by
  have stagingNamed := works.named ".temp" (by decide)
  have named := works.named_output
  have fits := staged.fits_output
  have different : suffixed name ".temp" ≠ name := suffixed_ne_self (by decide)
  obtain ⟨⟨⟩, middle, removes, renames⟩ := outcome_bind_eq_ok.1 published
  obtain ⟨bare, removed, rfl⟩ := outcome_onFiles_eq_ok.1 removes
  obtain ⟨files, renamed, rfl⟩ := outcome_onFiles_eq_ok.1 renames
  rw [works.output] at removed
  rw [FileOperation.outcome_change, works.staging_bytes, works.output] at renamed
  simp only at renamed ⊢
  split at renamed
  next moved isMoved =>
    obtain ⟨-, rfl⟩ := Prod.mk.inj renamed
    obtain ⟨otherLeft, other, entered⟩ :=
      enters_of_rename works.ends stagingNamed.toIsProper rfl isMoved
    obtain ⟨changed, gone, enters⟩ :=
      removeTree_entered staged.enters works.ends named fits staged.sound removed entered
    obtain ⟨node, found, same | ⟨id, rfl, listed, rfl⟩⟩ :=
      rename_ok enters works.ends stagingNamed named staged.fits fits different isMoved
    · exact ⟨bare, node, changed, enters, gone, found, same⟩
    · rw [gone] at listed
      cases listed
  next => cases renamed

theorem publishDirectory_failed (works : job.WorksIn directory name)
    (staged : Staged directory name parents world.files left location)
    (spares : world.files.Spares directory.bytes name) {error : JobError}
    (failed : outcome (publishDirectory job.output.path.staging job.output.path) world =
      (.error error, after)) : after.files = world.files := by
  have stagingNamed := works.named ".temp" (by decide)
  have named := works.named_output
  have fits := staged.fits_output
  have different : suffixed name ".temp" ≠ name := suffixed_ne_self (by decide)
  rw [publishDirectory, outcome_bind, removeTree, outcome_onFiles, works.output] at failed
  cases removed : outcome (ifThere (FileOperation.removeTree
      (directory.bytes ++ slashByte :: name))) world.files with
  | mk result bare =>
      rw [removed] at failed
      rcases removeTree_spared staged.enters works.ends named fits staged.sound spares removed with
        ⟨rfl, changed, enters, gone⟩ | ⟨⟨error, rfl⟩, rfl⟩
      · have has : bare.HasDirectory (location ++ [suffixed name ".temp"]) := by
          refine hasDirectory_congr (changed.sight _ ?_) staged.has
          exact apart_other (by simpa using different) []
        obtain ⟨entries, found⟩ := has
        have takes := (changed.takesEntries location).trans staged.takes
        have moved := rename_vacant enters works.ends stagingNamed named staged.fits fits different
          found gone takes
        simp only [mapError_ok, outcome_onFiles, FileOperation.outcome_change,
          works.staging_bytes, moved] at failed
        cases (Prod.mk.inj failed).1
      · obtain ⟨-, rfl⟩ := Prod.mk.inj failed
        rfl

/-! ## Publication of either kind -/

structure Published (job : Job) (directory : Path) (name : Name) (staged after : FileSystem)
    (left : Nat) (location : Location) : Prop where
  changed : ChangedIn location (job.output.touched name) staged after
  holds : job.output.Holds name location staged after
  unique : ∀ otherLeft other, after.Enters directory.bytes otherLeft other →
    other = location ∧ otherLeft = left
  staging : after.HasDirectory (location ++ [suffixed name ".temp"]) ∨
    after.node? (location ++ [suffixed name ".temp"]) = none
  unfinished : ∀ path, job.output = .archive path →
    after.node? (location ++ [suffixed name ".tmp"]) = none
  depfile : staged.Unshared (location ++ [suffixed name ".d"]) →
    after.Unshared (location ++ [suffixed name ".d"])

theorem published_archive (works : job.WorksIn directory name)
    (staged : Staged directory name parents world.files left location) {path : Path}
    (isArchive : job.output = .archive path)
    (unshared : world.files.Unshared (location ++ [suffixed name ".tmp"]))
    (published : outcome (publish job.output.path.staging job.output) world = (.ok (), after)) :
    Published job directory name world.files after.files left location := by
  have publishes : publish job.output.path.staging job.output =
      publishArchive job.output.path.staging job.output.path := by rw [isArchive]; rfl
  rw [publishes] at published
  rcases publishArchive_staged works staged unshared published with
    ⟨-, changed, gone, id, archive, only, content, archives⟩ | ⟨error, failed, -⟩
  case inr => cases failed
  refine ⟨changed.mono ?_, ?_, ?_, ?_, fun _ _ => gone, fun depfile => ?_⟩
  · rw [isArchive]
    simp [Publication.touched]
  · rw [isArchive]
    exact ⟨id, archive, only.here, content, archives⟩
  · intro otherLeft other enters
    refine changed.unique (fun entry member rest _ => ?_) staged.enters enters
    rcases List.mem_cons.1 member with rfl | member
    · exact not_passable_of_vacant gone rest
    · exact List.mem_singleton.1 member ▸ not_passable_of_file only.here rest
  · refine .inl (hasDirectory_congr (changed.sight _ (apart_other ?_ [])) staged.has)
    simp [suffixed_ne, suffixed_ne_self]
  · have apart : Apart location [suffixed name ".tmp", name]
        (location ++ [suffixed name ".d"]) := by
      refine apart_other ?_ []
      simp [suffixed_ne, suffixed_ne_self]
    refine depfile.changedIn changed apart fun other isOnly entry member rest listed => ?_
    rcases List.mem_cons.1 member with rfl | member
    · have none : after.files.node? (location ++ suffixed name ".tmp" :: rest) = none := by
        rw [← List.singleton_append, ← List.append_assoc, node?_append, gone, Option.bind_none]
      rw [none] at listed
      cases listed
    · obtain rfl := List.mem_singleton.1 member
      rw [← List.singleton_append, ← List.append_assoc, node?_append, only.here,
        Option.bind_some] at listed
      cases rest with
      | cons head tail => cases listed
      | nil =>
          -- The archive is a file of its own, so the dependency file would be the output.
          obtain rfl := Node.file.inj (Option.some.inj listed)
          have seen := (changed.sight _ apart).trans (sight?_of_node? isOnly.here)
          have same := only.only _ (sight?_eq_file.1 seen).1
          rw [List.append_cancel_left_eq, List.cons.injEq] at same
          exact suffixed_ne_self (by decide) same.1

theorem published_directory (works : job.WorksIn directory name)
    (staged : Staged directory name parents world.files left location) {path : Path}
    (isDirectory : job.output = .directory path)
    (published : outcome (publish job.output.path.staging job.output) world = (.ok (), after)) :
    Published job directory name world.files after.files left location := by
  have publishes : publish job.output.path.staging job.output =
      publishDirectory job.output.path.staging job.output.path := by rw [isDirectory]; rfl
  rw [publishes] at published
  obtain ⟨bare, node, removed, enters, vacant, found, isMoved⟩ :=
    publishDirectory_ok works staged published
  have different : suffixed name ".temp" ≠ name := suffixed_ne_self (by decide)
  have bareSound := removed.sound staged.sound
  have moved := ChangedIn.moved enters.has found bareSound works.named_output.toIsProper
  have gone (rest : Location) :
      after.files.node? (location ++ suffixed name ".temp" :: rest) = none := by
    rw [isMoved]
    exact node?_moved_away enters.has different bareSound rest
  have shows (rest : Location) : after.files.sight? (location ++ name :: rest) =
      world.files.sight? (location ++ suffixed name ".temp" :: rest) := by
    rw [isMoved, sight?_moved enters.has found]
    exact removed.sight _ (apart_other (by simpa using different) rest)
  rw [← isMoved] at moved
  have changed : ChangedIn location [name, suffixed name ".temp"] world.files after.files :=
    (removed.mono (by simp)).trans (moved.mono (by simp))
  refine ⟨?_, ?_, ?_, .inr (gone []), ?_, fun depfile => ?_⟩
  · rw [isDirectory]
    exact changed
  · rw [isDirectory]
    exact shows
  · intro otherLeft other entersAfter
    refine moved.unique (fun entry member rest passable => ?_) enters entersAfter
    rcases List.mem_cons.1 member with rfl | member
    · exact not_passable_of_vacant (gone []) rest
    · obtain rfl := List.mem_singleton.1 member
      exact absurd passable (not_passable_of_vacant vacant rest)
  · intro path isArchive
    rw [isDirectory] at isArchive
    cases isArchive
  · refine depfile.changedIn changed (apart_other ?_ []) fun id only entry member rest listed => ?_
    · simp [suffixed_ne, suffixed_ne_self]
    rcases List.mem_cons.1 member with rfl | member
    · have seen := (shows rest).symm.trans (sight?_of_node? listed)
      have same := only.only _ (sight?_eq_file.1 seen).1
      rw [List.append_cancel_left_eq, List.cons.injEq] at same
      exact suffixed_ne (by decide) same.1
    · obtain rfl := List.mem_singleton.1 member
      rw [gone rest] at listed
      cases listed

theorem published_of_publish (works : job.WorksIn directory name)
    (staged : Staged directory name parents world.files left location)
    (unshared : ∀ path, job.output = .archive path →
      world.files.Unshared (location ++ [suffixed name ".tmp"]))
    (published : outcome (publish job.output.path.staging job.output) world = (.ok (), after)) :
    Published job directory name world.files after.files left location := by
  cases kind : job.output with
  | archive path => exact published_archive works staged kind (unshared path kind) published
  | directory path => exact published_directory works staged kind published

end Job

end SchemaBuild
