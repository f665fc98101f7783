import SchemaBuild.Proofs.FileSystem.Writing
import SchemaBuild.Proofs.Job.Layout

/-!
# Staging

The first part of a job makes an empty staging directory and has the compiler write into it.
Whatever an earlier run left there is gone, and everything else is what it was.
-/

namespace SchemaBuild

namespace FileSystem

variable {files before after : FileSystem} {location : Location} {name : Name}

/-- Nothing was changed but what is below the directory at a location. -/
structure ChangedBelow (location : Location) (before after : FileSystem) : Prop where
  working : after.working = before.working
  views : after.views = before.views
  sound : before.Sound → after.Sound
  sight : ∀ place, (location <+: place → place = location) →
    after.sight? place = before.sight? place

theorem ChangedBelow.changedIn (changed : ChangedBelow (location ++ [name]) before after) :
    ChangedIn location [name] before after := by
  refine ⟨changed.working, changed.views, changed.sound, fun place apart => ?_⟩
  exact changed.sight place fun below => absurd below (apart_singleton.1 apart)

theorem ChangedIn.changedBelow {names : List Name}
    (changed : ChangedIn location names before after) : ChangedBelow location before after := by
  refine ⟨changed.working, changed.views, changed.sound, fun place above => ?_⟩
  refine changed.sight place fun name _ within => ?_
  obtain rfl := above ((List.prefix_append _ _).trans within)
  exact not_below_entry place name within

theorem ChangedBelow.hasDirectory (changed : ChangedBelow location before after)
    (has : before.HasDirectory location) : after.HasDirectory location :=
  hasDirectory_congr (changed.sight location fun _ => rfl) has

theorem ChangedBelow.includes (changed : ChangedBelow location before after)
    (vacant : ∀ rest ≠ [], before.node? (location ++ rest) = none) : after.Includes before := by
  intro place passable
  refine changed.sight place ?_
  rintro ⟨rest, rfl⟩
  by_cases here : rest = []
  · rw [here, List.append_nil]
  · exact absurd passable (not_passable_of_missing (vacant rest here))

end FileSystem

open FileSystem

namespace Job

/-! ## The first part of a job -/

def command (job : Job) : List String :=
  Text.words job.xsdc ++
    ([job.schema.text, job.packageName, job.output.path.staging.text] ++ job.args)

/-- A command changes nothing but what is below the directory at a path, wherever this is. -/
def StaysBelow (programs : Programs) (command : List String) (path : Path) : Prop :=
  ∀ (world : World) (location : Location) (entries : Directory), world.files.Sound →
    world.files.locate true path.bytes = .ok (.node location (.directory entries)) →
      ChangedBelow location world.files (programs command world).files

/-- The first part of a job: have the compiler write into an empty staging directory. -/
def stage (programs : Programs) (job : Job) : Step Unit :=
  match Text.words job.xsdc with
  | [] => throw .emptyCommand
  | program :: arguments => do
      makeParent job.output.path
      makeStaging job.output.path.staging
      runCompiler programs program (arguments ++
        [job.schema.text, job.packageName, job.output.path.staging.text] ++ job.args)

/-- The second part of a job: publish what is staged, and remove the staging directory. -/
def release (job : Job) : Step Unit := do
  let result ← observing (publish job.output.path.staging job.output)
  discard (observing (removeTree job.output.path.staging))
  ofExcept result
  job.finish

/-- The world when a job has made the directories above its output. -/
def parents (job : Job) (world : World) : World :=
  (outcome (makeParent job.output.path) world).2

def staged (programs : Programs) (job : Job) (world : World) : World :=
  (outcome (job.stage programs) world).2

def afterParents (programs : Programs) (job : Job) (program : String) (arguments : List String) :
    Step Unit := do
  let staging := job.output.path.staging
  makeStaging staging
  let result ← observing (job.compileAndPublish programs program arguments)
  discard (observing (removeTree staging))
  ofExcept result
  job.finish

theorem outcome_run_of_words {programs : Programs} {job : Job} {program : String}
    {arguments : List String} (words : Text.words job.xsdc = program :: arguments)
    (world : World) :
    outcome (job.run programs) world =
      match outcome (makeParent job.output.path) world with
      | (.ok _, parents) => outcome (job.afterParents programs program arguments) parents
      | (.error error, after) => (.error error, after) := by
  rw [run, words]
  simp only
  rw [outcome_bind]
  rcases outcome (makeParent job.output.path) world with ⟨result, parents⟩
  cases result <;> rfl

theorem outcome_afterParents (programs : Programs) (job : Job) (program : String)
    (arguments : List String) (world : World) :
    outcome (job.afterParents programs program arguments) world =
      match outcome (makeStaging job.output.path.staging) world with
      | (.error error, after) => (.error error, after)
      | (.ok _, empty) =>
          match outcome (runCompiler programs program (arguments ++
            [job.schema.text, job.packageName, job.output.path.staging.text] ++ job.args)) empty
          with
          | (.error error, compiled) =>
              (.error error, (outcome (removeTree job.output.path.staging) compiled).2)
          | (.ok _, staged) => outcome job.release staged := by
  rw [afterParents, outcome_bind]
  rcases outcome (makeStaging job.output.path.staging) world with ⟨result, empty⟩
  cases result with
  | error error => rfl
  | ok =>
      simp only
      rw [outcome_bind, outcome_observing, compileAndPublish, outcome_bind]
      generalize outcome (runCompiler programs program (arguments ++
        [job.schema.text, job.packageName, job.output.path.staging.text] ++ job.args)) empty = ran
      rcases ran with ⟨result, compiled⟩
      cases result with
      | error error =>
          simp only
          rw [outcome_bind, outcome_discard, outcome_observing]
          rfl
      | ok =>
          simp only
          conv_rhs => rw [release, outcome_bind, outcome_observing]

theorem afterParents_unfit {programs : Programs} {job : Job} {program : String}
    {arguments : List String} (unfit : ¬Fits job.output.path.staging.bytes) :
    ∃ cause, ∀ world, outcome (job.afterParents programs program arguments) world =
      (.error (.removal job.output.path.staging cause), world) := by
  obtain ⟨cause, other, refused⟩ := refused_of_not_fits unfit
  have present : cause ≠ .notFound := by
    refine other fun empty => ?_
    have suffix : Bytes.ofString ".temp" ≠ [] := by decide +kernel
    rw [Path.staging, Path.bytes_withSuffix, List.append_eq_nil_iff] at empty
    exact suffix empty.2
  refine ⟨cause, fun world => ?_⟩
  have clears : outcome (removeTree job.output.path.staging) world =
      (.error (.removal job.output.path.staging cause), world) := by
    have fails : outcome (FileOperation.removeTree job.output.path.staging.bytes) world.files =
        (.error cause, world.files) := by
      rw [FileOperation.removeTree, outcome_bind, FileOperation.outcome_look, locate,
        (refused world.files).1]
    rw [removeTree, outcome_onFiles, outcome_ifThere, fails]
    cases cause <;> first | rfl | exact absurd rfl present
  rw [outcome_afterParents, makeStaging, outcome_bind, clears]

theorem run_of_stage {programs : Programs} {job : Job} {world staged : World}
    (succeeded : outcome (job.stage programs) world = (.ok (), staged)) :
    outcome (job.run programs) world = outcome job.release staged := by
  rw [stage] at succeeded
  cases words : Text.words job.xsdc with
  | nil =>
      rw [words] at succeeded
      cases succeeded
  | cons program arguments =>
      rw [words] at succeeded
      simp only at succeeded
      obtain ⟨⟨⟩, parents, made, succeeded⟩ := outcome_bind_eq_ok.1 succeeded
      obtain ⟨⟨⟩, empty, cleared, compiled⟩ := outcome_bind_eq_ok.1 succeeded
      rw [outcome_run_of_words words, made]
      simp only
      rw [outcome_afterParents, cleared]
      simp only
      rw [compiled]

theorem stage_of_run {programs : Programs} {job : Job} {world : World}
    (succeeded : (outcome (job.run programs) world).1 = .ok ()) :
    outcome (job.stage programs) world = (.ok (), job.staged programs world) := by
  have whole : outcome (job.run programs) world =
      (.ok (), (outcome (job.run programs) world).2) := Prod.ext succeeded rfl
  have staged : (outcome (job.stage programs) world).1 = .ok () := by
    rw [run] at whole
    rw [stage]
    cases words : Text.words job.xsdc with
    | nil =>
        rw [words] at whole
        cases whole
    | cons program arguments =>
        rw [words] at whole
        simp only at whole ⊢
        obtain ⟨⟨⟩, parents, made, whole⟩ := outcome_bind_eq_ok.1 whole
        obtain ⟨⟨⟩, empty, cleared, whole⟩ := outcome_bind_eq_ok.1 whole
        obtain ⟨result, published, observed, whole⟩ := outcome_bind_eq_ok.1 whole
        obtain ⟨⟨⟩, removed, discarded, whole⟩ := outcome_bind_eq_ok.1 whole
        obtain ⟨⟨⟩, settled, kept, -⟩ := outcome_bind_eq_ok.1 whole
        rw [outcome_ofExcept] at kept
        obtain ⟨rfl, -⟩ := Prod.mk.inj kept
        rw [outcome_observing] at observed
        obtain ⟨result, state⟩ := Prod.mk.inj observed
        have both : outcome (job.compileAndPublish programs program arguments) empty =
            (.ok (), published) := Prod.ext (Except.ok.inj result) state
        obtain ⟨⟨⟩, compiled, ran, -⟩ := outcome_bind_eq_ok.1 both
        rw [outcome_bind, made]
        simp only
        rw [outcome_bind, cleared]
        simp only
        rw [ran]
  exact Prod.ext staged rfl

/-! ## What is staged -/

structure Staged (directory : Path) (name : Name) (before after : FileSystem) (left : Nat)
    (location : Location) : Prop where
  enteredBefore : before.Enters directory.bytes left location
  enters : after.Enters directory.bytes left location
  changed : ChangedIn location [suffixed name ".temp"] before after
  has : after.HasDirectory (location ++ [suffixed name ".temp"])
  takes : after.takesEntries location = true
  sound : after.Sound
  fits : Fits (directory.bytes ++ slashByte :: suffixed name ".temp")

theorem fits_suffixed {directory : Bytes} {name : Name}
    (fits : Fits (directory ++ slashByte :: suffixed name ".temp")) {suffix : String}
    (member : suffix ∈ outputSuffixes) : Fits (directory ++ slashByte :: suffixed name suffix) := by
  have small : 0 ∉ Bytes.ofString suffix ∧
      (Bytes.ofString suffix).length ≤ (Bytes.ofString ".temp").length := by
    simp only [outputSuffixes, List.mem_cons, List.not_mem_nil, or_false] at member
    rcases member with rfl | rfl | rfl | rfl <;> decide +kernel
  refine fits.beside ?_ ?_
  · rw [suffixed, List.mem_append]
    rintro (inName | inSuffix)
    · refine fits.noZero (List.mem_append_right _ (List.mem_cons_of_mem _ ?_))
      exact List.mem_append_left _ inName
    · exact small.1 inSuffix
  · rw [suffixed, suffixed, List.length_append, List.length_append]
    exact Nat.add_le_add_left small.2 _

theorem Staged.fits_suffixed {directory : Path} {name : Name} {before after : FileSystem}
    {left : Nat} {location : Location} (staged : Staged directory name before after left location)
    (suffix : String) (member : suffix ∈ outputSuffixes) :
    Fits (directory.bytes ++ slashByte :: suffixed name suffix) :=
  Job.fits_suffixed staged.fits member

theorem Staged.fits_output {directory : Path} {name : Name} {before after : FileSystem}
    {left : Nat} {location : Location} (staged : Staged directory name before after left location) :
    Fits (directory.bytes ++ slashByte :: name) :=
  suffixed_empty name ▸ staged.fits_suffixed "" (by decide)

variable {programs : Programs} {job : Job} {directory : Path} {name : Name}
  {world parents empty after : World}

theorem makeParent_eq {path : Path} (isParent : path.parent? = some directory)
    (some : directory.bytes ≠ []) :
    makeParent path = onFiles (.update directory) (FileOperation.makeDirectories directory) := by
  rw [makeParent, isParent]
  simp only [isEmpty_text some, Bool.false_eq_true, if_false]

theorem makeParent_grown (ends : EndsInName directory.bytes)
    (noSlash : endsInSlash directory.bytes = false) {path : Path}
    (isParent : path.parent? = some directory)
    (made : outcome (makeParent path) world = (.ok (), parents)) :
    Grown directory world.files parents.files ∧
      ∃ left location, parents.files.Enters directory.bytes left location := by
  have notEmpty := isEmpty_text ends.ne_nil
  rw [makeParent_eq isParent ends.ne_nil] at made
  obtain ⟨files, reached, rfl⟩ := outcome_onFiles_eq_ok.1 made
  obtain ⟨grown, there⟩ := makeDirectories_grown reached
  rw [notEmpty] at there
  obtain ⟨-, entered⟩ := enters_of_isDirectory noSlash ((there rfl).resolve_left (by decide))
  exact ⟨grown, entered⟩

theorem makeStaging_empty {left : Nat} {location : Location} (works : job.WorksIn directory name)
    (sound : parents.files.Sound) (enters : parents.files.Enters directory.bytes left location)
    (spares : parents.files.Spares directory.bytes (suffixed name ".temp"))
    (made : outcome (makeStaging job.output.path.staging) parents = (.ok (), empty)) :
    Staged directory name parents.files empty.files left location ∧ ∃ permissions,
      empty.files.node? (location ++ [suffixed name ".temp"]) =
        some (.directory (.empty permissions)) := by
  have bytes := works.staging_bytes
  have named := works.named ".temp" (by decide)
  obtain ⟨⟨⟩, cleared, clears, makes⟩ := outcome_bind_eq_ok.1 made
  obtain ⟨bare, removed, rfl⟩ := outcome_onFiles_eq_ok.1 clears
  obtain ⟨files, filled, rfl⟩ := outcome_onFiles_eq_ok.1 makes
  simp only at filled ⊢
  have fits : Fits job.output.path.staging.bytes := by
    rcases (makeDirectories_grown filled).2 rfl with empty | there
    · rw [String.isEmpty_iff] at empty
      rw [Path.bytes, empty] at bytes
      have none := congrArg List.length bytes
      simp [Bytes.ofString] at none
    · exact (isDirectory_iff.1 there).1
  have entryFits : Fits (directory.bytes ++ slashByte :: suffixed name ".temp") := bytes ▸ fits
  rw [bytes] at removed
  rcases removeTree_spared enters works.ends named entryFits sound spares removed with
    ⟨-, changed, entersBare, vacant⟩ | ⟨⟨error, failed⟩, -⟩
  case inr => cases failed
  rw [entersBare.makeDirectories_vacant works.ends works.noSlash named bytes
    (works.parent ".temp" (by decide)) fits vacant] at filled
  split at filled
  case isFalse => cases filled
  next takes =>
  obtain ⟨-, rfl⟩ := Prod.mk.inj filled
  generalize usualDirectoryPermissions ||| bare.inheritedPermissions location = permissions
  have put : ChangedIn location [suffixed name ".temp"] bare (bare.put location
      (suffixed name ".temp") (.directory (.empty permissions))) :=
    .put entersBare.has named.toIsProper fun _ => by rw [Node.Sound, Directory.Sound]; trivial
  have present : (bare.put location (suffixed name ".temp")
      (.directory (.empty permissions))).node? (location ++ [suffixed name ".temp"]) =
        some (.directory (.empty permissions)) := node?_put_below entersBare.has []
  have entersStaged := entersBare.mono (put.includes (not_passable_of_vacant vacant)) rfl
  exact ⟨⟨enters, entersStaged, changed.trans put, ⟨_, present⟩, takes,
    put.sound (changed.sound sound), entryFits⟩, permissions, present⟩

def verdict (program : String) : Except FileError ExitStatus → Except JobError Unit
  | .error error => .error (.start program error)
  | .ok status => if status.isSuccess then .ok () else .error (.compiler status)

theorem outcome_runCompiler (programs : Programs) (program : String) (arguments : List String)
    (world : World) :
    outcome (runCompiler programs program arguments) world =
      (verdict program (programs (program :: arguments) world).outcome,
        { world with
          files := (programs (program :: arguments) world).files
          console := world.console.append (programs (program :: arguments) world).console }) := by
  rw [runCompiler, outcome_bind, outcome_get]
  simp only
  rw [outcome_bind, outcome_set]
  simp only [verdict]
  cases (programs (program :: arguments) world).outcome with
  | error error => rfl
  | ok status => cases passed : status.isSuccess <;> simp [passed, outcome_pure, outcome_throw]

theorem runCompiler_files (programs : Programs) (program : String) (arguments : List String)
    (world : World) :
    (outcome (runCompiler programs program arguments) world).2.files =
      (programs (program :: arguments) world).files := by
  rw [outcome_runCompiler]

theorem command_eq {program : String} {arguments : List String}
    (words : Text.words job.xsdc = program :: arguments) :
    program :: (arguments ++
      [job.schema.text, job.packageName, job.output.path.staging.text] ++ job.args) =
        job.command := by
  rw [command, words]
  simp only [List.append_assoc, List.cons_append]

theorem command_drop {program : String} (words : Text.words job.xsdc = [program]) :
    job.command.drop 3 = job.output.path.staging.text :: job.args := by
  rw [command, words]
  rfl

/-- Running the compiler in the empty staging directory leaves something staged. -/
theorem Staged.compiled {before : FileSystem} {left : Nat} {location : Location}
    {permissions : Nat} (staged : Staged directory name before empty.files left location)
    (works : job.WorksIn directory name)
    (found : empty.files.node? (location ++ [suffixed name ".temp"]) =
      some (.directory (.empty permissions)))
    (confined : StaysBelow programs job.command job.output.path.staging)
    (compiled : after.files = (programs job.command empty).files) :
    Staged directory name before after.files left location := by
  have located : empty.files.locate true job.output.path.staging.bytes =
      .ok (.node (location ++ [suffixed name ".temp"]) (.directory (.empty permissions))) := by
    rw [locate, if_pos rfl, works.staging_bytes]
    exact seek_node staged.enters works.ends (works.named ".temp" (by decide)) staged.fits
      .target (by simp) found
  have below := confined empty _ _ staged.sound located
  rw [← compiled] at below
  have includes : after.files.Includes empty.files := by
    refine below.includes fun rest notHere => ?_
    rw [node?_append, found, Option.bind_some, Node.find?]
    cases rest with
    | nil => exact absurd rfl notHere
    | cons head tail => rfl
  exact ⟨staged.enteredBefore, staged.enters.mono includes below.working,
    staged.changed.trans below.changedIn, below.hasDirectory staged.has,
    (below.changedIn.takesEntries _).trans staged.takes, below.sound staged.sound, staged.fits⟩

/-- What the first part of a job comes to, if the way to the directory does not lead through the
staging directory. -/
theorem stage_spared (works : job.WorksIn directory name) (sound : world.files.Sound)
    (confined : StaysBelow programs job.command job.output.path.staging)
    (spares : (job.parents world).files.Spares directory.bytes (suffixed name ".temp"))
    (succeeded : outcome (job.stage programs) world = (.ok (), after)) :
    Grown directory world.files (job.parents world).files ∧ ∃ left location,
      Staged directory name (job.parents world).files after.files left location := by
  rw [stage] at succeeded
  cases words : Text.words job.xsdc with
  | nil =>
      rw [words] at succeeded
      cases succeeded
  | cons program arguments =>
      rw [words] at succeeded
      simp only at succeeded
      obtain ⟨⟨⟩, parents, made, succeeded⟩ := outcome_bind_eq_ok.1 succeeded
      have same : job.parents world = parents := by rw [Job.parents, made]
      rw [same] at spares ⊢
      obtain ⟨grown, left, location, enters⟩ :=
        makeParent_grown works.ends works.noSlash works.parent_output made
      obtain ⟨⟨⟩, empty, cleared, succeeded⟩ := outcome_bind_eq_ok.1 succeeded
      obtain ⟨staged, permissions, found⟩ :=
        makeStaging_empty works (grown.sound sound) enters spares cleared
      have files := runCompiler_files programs program (arguments ++
        [job.schema.text, job.packageName, job.output.path.staging.text] ++ job.args) empty
      rw [succeeded, command_eq words] at files
      exact ⟨grown, left, location, staged.compiled works found confined files⟩

/-! ## Compilers -/

/-- A compiler that makes one change of the directory which its fourth word names. Without such a
directory it fails. -/
def changing (change : Location → FileSystem → FileSystem) : Programs := fun command world =>
  match command.drop 3 with
  | [] => { files := world.files, outcome := .ok (.code 1) }
  | staging :: _ =>
      match world.files.locate true (Bytes.ofString staging) with
      | .ok (.node location (.directory _)) =>
          { files := change location world.files, outcome := .ok (.code 0) }
      | _ => { files := world.files, outcome := .ok (.code 1) }

theorem staysBelow_changing {change : Location → FileSystem → FileSystem}
    (stays : ∀ location (files : FileSystem), files.Sound → files.HasDirectory location →
      ChangedBelow location files (change location files))
    {command rest : List String} {path : Path} (named : command.drop 3 = path.text :: rest) :
    StaysBelow (changing change) command path := by
  intro world location entries sound located
  have found := node?_of_locate located
  rw [changing, named]
  simp only
  rw [← Path.bytes, located]
  exact stays location world.files sound ⟨entries, found⟩

end Job

end SchemaBuild
