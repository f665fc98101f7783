import Mathlib.Data.List.Find
import SchemaBuild.Proofs.Job.Unison

/-!
# Archives of twins

The staging directories of twins have the same files, so the same archive is written of both. The
file of the archive itself is none of these.
-/

namespace SchemaBuild

open FileSystem

namespace Job

/-! ## Entries of archives -/

section

variable {top : Location} {first second : FileSystem} {id otherId : FileId} {root : Path}

/-- What is added to an archive is the same where the walks to it end alike, and not at the file of
the archive. -/
theorem entryData_of_sameEnd {path : Path}
    (same : SameEnd top first second (first.locate true path.bytes)
      (second.locate true path.bytes))
    (apart : ∀ place, first.node? place = some (.file id) → ¬top <+: place)
    (otherApart : ∀ place, second.node? place = some (.file otherId) → ¬top <+: place)
    (archive : Archive) :
    entryData second (.file otherId) archive path = entryData first (.file id) archive path := by
  unfold entryData FileSystem.read FileSystem.openAt
  generalize first.locate true path.bytes = inFirst at same ⊢
  generalize second.locate true path.bytes = inSecond at same ⊢
  cases same with
  | error error => rfl
  | vacant directory name => rfl
  | directory place entries others => rfl
  | file place within here there inFirst inSecond stored =>
      have notHere : here ≠ id := fun equal => apart place (equal ▸ inFirst.here) within
      have notThere : there ≠ otherId :=
        fun equal => otherApart place (equal ▸ inSecond.here) within
      simp [bind, Except.bind, Except.toOption, notHere, notThere, stored]

theorem addEntries_congr {names : List String}
    (same : ∀ name ∈ names, ∀ archive,
      entryData second (.file otherId) archive (root.join name) =
        entryData first (.file id) archive (root.join name)) (archive : Archive) :
    addEntries second root (.file otherId) none archive names =
      addEntries first root (.file id) none archive names := by
  induction names generalizing archive with
  | nil => rfl
  | cons name names induction =>
      have behind := induction fun other member => same other (List.mem_cons_of_mem _ member)
      rw [addEntries, addEntries, same name List.mem_cons_self]
      simp only [behind]

end

section

variable {job : Job} {directory : Path} {name : Name} {site : Site} {own : List Name}
  {first second : World}
  (works : job.WorksAt directory name site own)
  (twins : Twins site own first.files second.files)
include works twins

theorem staged_alike {entries : Directory}
    (found : first.files.node? (site.location ++ [suffixed name ".temp"]) =
      some (.directory entries)) :
    ∃ others, second.files.node? (site.location ++ [suffixed name ".temp"]) =
        some (.directory others) ∧
      areListable job.output.path.staging others = areListable job.output.path.staging entries ∧
      collectFiles others = collectFiles entries := by
  have same := twins.samePlace (works.owns (show ".temp" ∈ outputSuffixes by decide))
  obtain ⟨others, otherFound, -⟩ := directory_of_view? (same []).view found
  have sound := twins.tidy.sound.node? found
  have otherSound := twins.otherTidy.sound.node? otherFound
  rw [Node.Sound] at sound otherSound
  have below (names : Location) : SamePlace first.files second.files
      (site.location ++ [suffixed name ".temp"] ++ names) := by
    rw [List.append_assoc]
    exact same names
  have inFirst (names : Location) : entries.find? names =
      first.files.node? (site.location ++ [suffixed name ".temp"] ++ names) := by
    rw [node?_append, found, Option.bind_some, Node.find?]
  have inSecond (names : Location) : others.find? names =
      second.files.node? (site.location ++ [suffixed name ".temp"] ++ names) := by
    rw [node?_append, otherFound, Option.bind_some, Node.find?]
  refine ⟨others, otherFound, ?_, ?_⟩
  · rw [Bool.eq_iff_iff, areListable_iff otherSound, areListable_iff sound]
    constructor
    · intro short names inner some here
      rw [inFirst] at here
      obtain ⟨_, there⟩ := (below names).hasDirectory_iff.2 ⟨inner, here⟩
      exact short names _ some ((inSecond names).trans there)
    · intro short names inner some there
      rw [inSecond] at there
      obtain ⟨_, here⟩ := (below names).hasDirectory_iff.1 ⟨inner, there⟩
      exact short names _ some ((inFirst names).trans here)
  · refine collectFiles_congr sound otherSound fun names => ?_
    rw [Directory.mem_leaves otherSound, Directory.mem_leaves sound, inFirst, inSecond]
    exact (below names).leaf_iff

omit twins in
theorem names_of_mem_collectFiles {files : FileSystem} {entries : Directory}
    (sound : files.Sound)
    (found : files.node? (site.location ++ [suffixed name ".temp"]) = some (.directory entries))
    {text : String} (member : text ∈ collectFiles entries) :
    ∃ rest below, (job.output.path.staging.join text).bytes =
        site.directory ++ slashByte :: rest ∧
      walkNames rest = suffixed name ".temp" :: below ∧ ∀ name ∈ below, IsProper name := by
  have named := (works.named ".temp" (by decide)).toIsProper
  obtain ⟨names, some, proper, bytes⟩ :=
    join_of_mem_collectFiles sound found job.output.path.getLast?_staging (by decide) member
  refine ⟨suffixed name ".temp" ++ slashByte :: relativePath names, names, ?_, ?_, proper⟩
  · rw [bytes, show job.output.path.staging.bytes = _ from works.bytes ".temp", Site.path,
      List.append_assoc, List.cons_append]
  · rw [walkNames_append _ (relativePath_ne_nil some proper), named.pathNames,
      walkNames_relativePath some proper, List.singleton_append]

theorem writeArchive_unison
    (has : first.files.HasDirectory (site.location ++ [suffixed name ".temp"])) :
    Unison site own first second
        (outcome (writeArchive job.output.path.staging job.output.path.unfinished) first)
        (outcome (writeArchive job.output.path.staging job.output.path.unfinished) second) ∧
      ∀ after, outcome (writeArchive job.output.path.staging job.output.path.unfinished) first =
        (.ok (), after) → ∃ id, after.files.node? (site.location ++ [suffixed name ".tmp"]) =
          some (.file id) := by
  have stagingBytes : job.output.path.staging.bytes = site.path (suffixed name ".temp") :=
    works.bytes ".temp"
  have bytes : job.output.path.unfinished.bytes = site.path (suffixed name ".tmp") :=
    works.bytes ".tmp"
  have stagingEntry := works.entry (show ".temp" ∈ outputSuffixes by decide)
  have stagingMember := works.owns (show ".temp" ∈ outputSuffixes by decide)
  have entry := works.entry (show ".tmp" ∈ outputSuffixes by decide)
  have member := works.owns (show ".tmp" ∈ outputSuffixes by decide)
  obtain ⟨entries, found⟩ := has
  obtain ⟨others, otherFound, listable, collected⟩ := staged_alike works twins found
  have listed {files : FileSystem} {entries : Directory} (tidy : site.Tidy files)
      (found : files.node? (site.location ++ [suffixed name ".temp"]) =
        some (.directory entries)) :
      files.list job.output.path.staging.bytes = .ok entries := by
    rw [list, locate, if_pos rfl, stagingBytes,
      (tidy.reaches stagingEntry).seek_node .target (by simp) found]
    rfl
  have inFirst := listed twins.tidy found
  have inSecond := listed twins.otherTidy otherFound
  cases isListable : areListable job.output.path.staging entries with
  | false =>
      rw [outcome_writeArchive_unlisted inFirst isListable,
        outcome_writeArchive_unlisted inSecond (listable.trans isListable)]
      exact ⟨.unchanged twins _, fun after failed => by cases failed⟩
  | true =>
      rcases twins.openToWrite entry member usualPermissions with
        ⟨error, opens, alsoOpens⟩ | ⟨id, otherId, middle, otherMiddle, opens, alsoOpens, only,
          alsoOnly, inStep⟩
      · rw [← bytes] at opens alsoOpens
        rw [outcome_writeArchive_refused inFirst isListable (outcome_openArchive_error opens),
          outcome_writeArchive_refused inSecond (listable.trans isListable)
            (outcome_openArchive_error alsoOpens)]
        exact ⟨.unchanged twins _, fun after failed => by cases failed⟩
      · rw [← bytes] at opens alsoOpens
        have emptied := inStep.trans (inStep.twins.setContent member only alsoOnly (.bytes []))
        have bare : (middle.setContent id (.bytes [])).IsOnlyName _ id := only.changeFile _
        have otherBare : (otherMiddle.setContent otherId (.bytes [])).IsOnlyName _ otherId :=
          alsoOnly.changeFile _
        -- The file of the archive is beside the staging directory, and nowhere else.
        have apart {files : FileSystem} {id : FileId}
            (only : files.IsOnlyName (site.location ++ [suffixed name ".tmp"]) id)
            (place : Location) (listed : files.node? place = some (.file id)) :
            ¬site.location ++ [suffixed name ".temp"] <+: place := by
          rw [only.only place listed]
          exact apart_singleton.1 (apart_other (by simp [suffixed_ne]) [])
        have same : addEntries (otherMiddle.setContent otherId (.bytes []))
              job.output.path.staging (.file otherId) none [] (collectFiles others) =
            addEntries (middle.setContent id (.bytes [])) job.output.path.staging (.file id)
              none [] (collectFiles entries) := by
          rw [collected]
          refine addEntries_congr (fun text isText archive => ?_) []
          obtain ⟨rest, below, path, names, proper⟩ :=
            names_of_mem_collectFiles works twins.tidy.sound found isText
          refine entryData_of_sameEnd ?_ (apart bare) (apart otherBare) archive
          rw [path]
          exact emptied.twins.sameEnd stagingEntry stagingMember names proper
        cases added : addEntries (middle.setContent id (.bytes [])) job.output.path.staging
            (.file id) none [] (collectFiles entries) with
        | mk archive failure =>
            rw [outcome_writeArchive_opened inFirst isListable (outcome_openArchive_file opens)
              added, outcome_writeArchive_opened inSecond (listable.trans isListable)
                (outcome_openArchive_file alsoOpens) (same.trans added)]
            refine ⟨⟨rfl, emptied.trans
              (emptied.twins.setContent member bare otherBare (.archive archive))⟩,
              fun after written => ?_⟩
            obtain ⟨-, rfl⟩ := Prod.mk.inj written
            exact ⟨id, bare.here⟩

/-! ## Publication -/

theorem publishArchive_unison
    (has : first.files.HasDirectory (site.location ++ [suffixed name ".temp"])) :
    Unison site own first second
      (outcome (publishArchive job.output.path.staging job.output.path) first)
      (outcome (publishArchive job.output.path.staging job.output.path) second) := by
  have bytes : job.output.path.unfinished.bytes = site.path (suffixed name ".tmp") :=
    works.bytes ".tmp"
  have entry := works.entry (show ".tmp" ∈ outputSuffixes by decide)
  have member := works.owns (show ".tmp" ∈ outputSuffixes by decide)
  obtain ⟨writing, written⟩ := writeArchive_unison works twins has
  refine writing.ran.bind fun result middle otherMiddle writes _ still => ?_
  cases result with
  | error error =>
      have removing : Unison site own middle otherMiddle
          (outcome (removeFile job.output.path.unfinished) middle)
          (outcome (removeFile job.output.path.unfinished) otherMiddle) := by
        refine .onFiles ?_
        rw [bytes]
        exact still.unlink entry member
      exact removing.bind fun _ _ _ _ _ left => .unchanged left _
  | ok =>
      rw [outcome_run] at writes
      obtain ⟨result, state⟩ := Prod.mk.inj writes
      obtain ⟨id, isFile⟩ := written middle (Prod.ext (Except.ok.inj result) state)
      refine .onFiles ?_
      rw [bytes, works.output_bytes]
      exact still.rename_file entry works.entry_output member works.owns_output
        (suffixed_ne_self (by decide)) isFile

theorem publish_unison
    (has : first.files.HasDirectory (site.location ++ [suffixed name ".temp"])) :
    Unison site own first second
      (outcome (publish job.output.path.staging job.output) first)
      (outcome (publish job.output.path.staging job.output) second) := by
  cases kind : job.output with
  | archive path =>
      obtain rfl : job.output.path = path := by rw [kind]; rfl
      have whole := publishArchive_unison works twins has
      rwa [kind] at whole
  | directory path =>
      have whole := publishDirectory_unison works twins
      rwa [kind] at whole

/-! ## The end of a job -/

omit works twins in
theorem writeText_unison {path : Path} {text : String}
    (replaces : Agree site own first.files second.files
      (outcome (FileOperation.change fun files => files.replace path.bytes (.ofString text))
        first.files)
      (outcome (FileOperation.change fun files => files.replace path.bytes (.ofString text))
        second.files)) :
    Unison site own first second (outcome (writeText path text) first)
      (outcome (writeText path text) second) := by
  obtain ⟨result, files⟩ := outcome_writeText path text first
  obtain ⟨otherResult, otherFiles⟩ := outcome_writeText path text second
  refine ⟨by rw [result, otherResult, replaces.result], ?_⟩
  rw [files, otherFiles]
  exact replaces.inStep

theorem finish_unison :
    Unison site own first second (outcome job.finish first) (outcome job.finish second) := by
  have fits : Fits (site.path (suffixed name ".d")) := (works.entry (by decide)).fits
  have above : Fits directory.bytes := by
    rw [works.isDirectory]
    exact fits.above (works.entry_output).ends.ne_nil
  have enters (world : World) (tidy : site.Tidy world.files) :
      outcome (makeParent job.depfile) world = (.ok (), world) :=
    makeParent_depfile works.toWorksIn (works.isDirectory ▸ tidy.enters) above
  have there (target : Path) (member : target ∈ job.targets) :
      second.files.exists? target.bytes = first.files.exists? target.bytes := by
    obtain ⟨rest, below, bytes, names, proper⟩ := works.inside target member
    rw [bytes]
    exact exists?_of_sameEnd (twins.sameEnd works.entry_output works.owns_output names proper)
  have missing : (job.targets.find? fun path => !second.files.exists? path.bytes) =
      job.targets.find? fun path => !first.files.exists? path.bytes :=
    List.find?_congr fun target member => by rw [there target member]
  rw [finish, outcome_bind, outcome_bind, outcome_get, outcome_get]
  simp only [missing]
  cases job.targets.find? fun path => !first.files.exists? path.bytes with
  | some target => exact .unchanged twins _
  | none =>
      simp only
      rw [outcome_bind, outcome_bind, enters first twins.tidy, enters second twins.otherTidy]
      refine writeText_unison ?_
      rw [show job.depfile.bytes = site.path (suffixed name ".d") from
        works.depfile ▸ works.bytes ".d"]
      exact twins.replace (works.entry (by decide)) (works.owns (by decide)) _

end

end Job

end SchemaBuild
