import SchemaBuild.Proofs.FileSystem.Agreement
import SchemaBuild.Proofs.FileSystem.Reaching
import SchemaBuild.Proofs.Job.Release

/-!
# Jobs on twins

A job comes to the same in all file systems that look alike where it works: it ends with the same
result, changes nothing but its own entries, and leaves these alike. What the compiler writes must
depend on its command only.
-/

namespace SchemaBuild

open FileSystem

namespace Job

/-! ## Steps in unison -/

/-- A step came to the same in twins, and nothing but own entries were changed. -/
structure Unison {ε α : Type} (site : Site) (own : List Name) (first second : World)
    (done otherDone : Except ε α × World) : Prop where
  result : otherDone.1 = done.1
  inStep : InStep site own first.files second.files done.2.files otherDone.2.files

section

variable {ε α β : Type} {site : Site} {own : List Name} {first second : World}

theorem Unison.unchanged (twins : Twins site own first.files second.files) (result : Except ε α) :
    Unison site own first second (result, first) (result, second) :=
  ⟨rfl, twins.inStep⟩

theorem Unison.onFiles {cause : FileError → ε} {operation : FileOperation α}
    (agree : Agree site own first.files second.files (outcome operation first.files)
      (outcome operation second.files)) :
    Unison site own first second (outcome (onFiles cause operation) first)
      (outcome (onFiles cause operation) second) := by
  rw [outcome_onFiles, outcome_onFiles]
  exact ⟨congrArg (Except.mapError cause) agree.result, agree.inStep⟩

theorem Unison.bind {step : ExceptT ε (StateM World) α}
    {next : α → ExceptT ε (StateM World) β}
    (starts : Unison site own first second (outcome step first) (outcome step second))
    (onward : ∀ value middle otherMiddle, outcome step first = (.ok value, middle) →
      outcome step second = (.ok value, otherMiddle) →
      Twins site own middle.files otherMiddle.files →
        Unison site own middle otherMiddle (outcome (next value) middle)
          (outcome (next value) otherMiddle)) :
    Unison site own first second (outcome (step >>= next) first)
      (outcome (step >>= next) second) := by
  rw [outcome_bind, outcome_bind]
  generalize inFirst : outcome step first = done at starts
  generalize inSecond : outcome step second = otherDone at starts
  obtain ⟨result, middle⟩ := done
  obtain ⟨otherResult, otherMiddle⟩ := otherDone
  obtain rfl : otherResult = result := starts.result
  cases otherResult with
  | error error => exact ⟨rfl, starts.inStep⟩
  | ok value =>
      have behind := onward value middle otherMiddle inFirst inSecond starts.inStep.twins
      exact ⟨behind.result, starts.inStep.trans behind.inStep⟩

theorem Unison.observed {step : ExceptT ε (StateM World) α}
    (unison : Unison site own first second (outcome step first) (outcome step second)) :
    Unison site own first second
      (outcome (observing step : ExceptT ε (StateM World) (Except ε α)) first)
      (outcome (observing step : ExceptT ε (StateM World) (Except ε α)) second) := by
  rw [outcome_observing, outcome_observing]
  exact ⟨congrArg Except.ok unison.result, unison.inStep⟩

theorem Unison.ran {ε' : Type} {step : ExceptT ε (StateM World) α}
    (unison : Unison site own first second (outcome step first) (outcome step second)) :
    Unison site own first second
      (outcome (liftM step.run : ExceptT ε' (StateM World) (Except ε α)) first)
      (outcome (liftM step.run : ExceptT ε' (StateM World) (Except ε α)) second) := by
  rw [outcome_run, outcome_run]
  exact ⟨congrArg Except.ok unison.result, unison.inStep⟩

theorem Unison.discarded {step : ExceptT ε (StateM World) α}
    (unison : Unison site own first second (outcome step first) (outcome step second)) :
    Unison site own first second
      (outcome (discard step : ExceptT ε (StateM World) PUnit) first)
      (outcome (discard step : ExceptT ε (StateM World) PUnit) second) := by
  rw [outcome_discard, outcome_discard]
  exact ⟨congrArg (Except.map fun _ => ()) unison.result, unison.inStep⟩

end

/-! ## Jobs on a site -/

def entryNames (name : Name) : List Name :=
  outputSuffixes.map (suffixed name)

theorem mem_entryNames {name : Name} {suffix : String} (member : suffix ∈ outputSuffixes) :
    suffixed name suffix ∈ entryNames name :=
  List.mem_map_of_mem member

/-- A job works on entries of a site, which it has to itself. The system takes the paths of these
entries. -/
structure WorksAt (job : Job) (directory : Path) (name : Name) (site : Site) (own : List Name) :
    Prop extends job.WorksIn directory name where
  isDirectory : directory.bytes = site.directory
  isOwn : entryNames name ⊆ own
  fits : Fits (site.path (suffixed name ".temp"))
  inside : ∀ target ∈ job.targets, ∃ rest below,
    target.bytes = site.directory ++ slashByte :: rest ∧
    walkNames rest = name :: below ∧ ∀ name ∈ below, IsProper name

namespace WorksAt

variable {job : Job} {directory : Path} {name : Name} {site : Site} {own : List Name}
  (works : job.WorksAt directory name site own)
include works

theorem bytes (suffix : String) :
    (job.output.path.withSuffix suffix).bytes = site.path (suffixed name suffix) := by
  rw [works.suffixed_bytes, works.isDirectory]
  rfl

theorem output_bytes : job.output.path.bytes = site.path name := by
  rw [works.output, works.isDirectory]
  rfl

theorem entry {suffix : String} (member : suffix ∈ outputSuffixes) :
    site.HasEntry (suffixed name suffix) :=
  ⟨works.isDirectory ▸ works.ends, works.named suffix member, fits_suffixed works.fits member⟩

theorem owns {suffix : String} (member : suffix ∈ outputSuffixes) : suffixed name suffix ∈ own :=
  works.isOwn (mem_entryNames member)

theorem entry_output : site.HasEntry name :=
  suffixed_empty name ▸ works.entry (show "" ∈ outputSuffixes by decide)

theorem owns_output : name ∈ own :=
  suffixed_empty name ▸ works.owns (show "" ∈ outputSuffixes by decide)

end WorksAt

/-! ## The first part of a job -/

section

variable {programs : Programs} {job : Job} {directory : Path} {name : Name} {site : Site}
  {own : List Name} {first second world after : World}
  (works : job.WorksAt directory name site own)
include works

theorem makeStaging_vacant (tidy : site.Tidy world.files) (owned : own ⊆ site.names)
    (made : outcome (makeStaging job.output.path.staging) world = (.ok (), after)) :
    ∃ permissions, after.files.node? (site.location ++ [suffixed name ".temp"]) =
      some (.directory (.empty permissions)) := by
  have bytes : job.output.path.staging.bytes = site.path (suffixed name ".temp") :=
    works.bytes ".temp"
  have entry := works.entry (show ".temp" ∈ outputSuffixes by decide)
  have member := owned (works.owns (show ".temp" ∈ outputSuffixes by decide))
  obtain ⟨⟨⟩, cleared, clears, makes⟩ := outcome_bind_eq_ok.1 made
  obtain ⟨bare, removed, rfl⟩ := outcome_onFiles_eq_ok.1 clears
  obtain ⟨files, filled, rfl⟩ := outcome_onFiles_eq_ok.1 makes
  rw [bytes] at removed
  obtain ⟨reaches, vacant⟩ := tidy.removed entry member removed
  rw [← bytes] at reaches
  obtain ⟨permissions, put⟩ := reaches.makeDirectories vacant filled
  simp only at put ⊢
  subst put
  exact ⟨permissions, node?_put_below reaches.has []⟩

variable (twins : Twins site own first.files second.files)
include twins

theorem removeStaging_unison :
    Unison site own first second (outcome (removeTree job.output.path.staging) first)
      (outcome (removeTree job.output.path.staging) second) := by
  have bytes : job.output.path.staging.bytes = site.path (suffixed name ".temp") :=
    works.bytes ".temp"
  refine .onFiles ?_
  rw [bytes]
  exact twins.removeTree (works.entry (by decide)) (works.owns (by decide))

theorem makeStaging_unison :
    Unison site own first second (outcome (makeStaging job.output.path.staging) first)
      (outcome (makeStaging job.output.path.staging) second) := by
  have bytes : job.output.path.staging.bytes = site.path (suffixed name ".temp") :=
    works.bytes ".temp"
  have entry := works.entry (show ".temp" ∈ outputSuffixes by decide)
  have member := works.owns (show ".temp" ∈ outputSuffixes by decide)
  refine (removeStaging_unison works twins).bind fun _ middle otherMiddle removes _ still => ?_
  obtain ⟨bare, removed, rfl⟩ := outcome_onFiles_eq_ok.1 removes
  rw [bytes] at removed
  obtain ⟨-, vacant⟩ := twins.tidy.removed entry (twins.owned member) removed
  exact .onFiles (still.makeDirectories entry member works.isDirectory
    (works.isDirectory ▸ works.noSlash) bytes (works.parent ".temp" (by decide)) vacant)

end

/-! ## Compilers -/

/-- What a command writes below the directory at a path, and how it ends, depends on nothing but the
command and the place of the directory, which is empty before. It writes directories, and files with
one name. -/
def Reproducible (programs : Programs) (command : List String) (path : Path) : Prop :=
  ∀ (world other : World) (location : Location) (permissions : Nat),
    world.files.Sound → other.files.Sound →
    world.files.locate true path.bytes =
      .ok (.node location (.directory (.empty permissions))) →
    other.files.locate true path.bytes =
      .ok (.node location (.directory (.empty permissions))) →
      (programs command other).outcome = (programs command world).outcome ∧
        ∀ rest, SamePlace (programs command world).files (programs command other).files
          (location ++ rest)

/-- The compiler of a job keeps to the staging directory and depends on the command only. -/
structure Behaves (programs : Programs) (job : Job) : Prop where
  confined : StaysBelow programs job.command job.output.path.staging
  reproducible : Reproducible programs job.command job.output.path.staging

theorem reproducible_changing {change : Location → FileSystem → FileSystem}
    (same : ∀ location permissions (first second : FileSystem), first.Sound → second.Sound →
      first.node? location = some (.directory (.empty permissions)) →
      second.node? location = some (.directory (.empty permissions)) →
        ∀ below, SamePlace (change location first) (change location second) (location ++ below))
    {command rest : List String} {path : Path} (named : command.drop 3 = path.text :: rest) :
    Reproducible (changing change) command path := by
  intro world other location permissions sound otherSound located otherLocated
  have found := node?_of_locate located
  have otherFound := node?_of_locate otherLocated
  rw [changing, changing, named]
  simp only
  rw [← Path.bytes, located, otherLocated]
  exact ⟨rfl, same location permissions _ _ sound otherSound found otherFound⟩

section

variable {programs : Programs} {job : Job} {directory : Path} {name : Name} {site : Site}
  {own : List Name} {first second : World}
  (works : job.WorksAt directory name site own)
  (twins : Twins site own first.files second.files)
include works twins

/-- A compiler that is run on empty staging directories writes the same into both. -/
theorem runCompiler_unison {program : String} {arguments : List String} {permissions : Nat}
    (command : program :: arguments = job.command) (behaves : Behaves programs job)
    (empty : first.files.node? (site.location ++ [suffixed name ".temp"]) =
      some (.directory (.empty permissions)))
    (otherEmpty : second.files.node? (site.location ++ [suffixed name ".temp"]) =
      some (.directory (.empty permissions))) :
    Unison site own first second (outcome (runCompiler programs program arguments) first)
        (outcome (runCompiler programs program arguments) second) ∧
      (outcome (runCompiler programs program arguments) first).2.files.HasDirectory
        (site.location ++ [suffixed name ".temp"]) := by
  have bytes : job.output.path.staging.bytes = site.path (suffixed name ".temp") :=
    works.bytes ".temp"
  have entry := works.entry (show ".temp" ∈ outputSuffixes by decide)
  have located {files : FileSystem} (tidy : site.Tidy files)
      (found : files.node? (site.location ++ [suffixed name ".temp"]) =
        some (.directory (.empty permissions))) :
      files.locate true job.output.path.staging.bytes =
        .ok (.node (site.location ++ [suffixed name ".temp"])
          (.directory (.empty permissions))) := by
    rw [bytes, locate, if_pos rfl]
    exact (tidy.reaches entry).seek_node .target (by simp) found
  have inFirst := located twins.tidy empty
  have inSecond := located twins.otherTidy otherEmpty
  obtain ⟨same, alike⟩ := behaves.reproducible first second _ _ twins.tidy.sound
    twins.otherTidy.sound inFirst inSecond
  have changed := behaves.confined first _ _ twins.tidy.sound inFirst
  have otherChanged := behaves.confined second _ _ twins.otherTidy.sound inSecond
  rw [outcome_runCompiler, outcome_runCompiler, command]
  refine ⟨⟨by rw [same], ?_⟩, changed.hasDirectory ⟨_, empty⟩⟩
  refine twins.changed (works.owns (by decide)) changed.changedIn otherChanged.changedIn
    fun rest => ?_
  have atRest := alike rest
  rwa [List.append_assoc] at atRest

/-! ## Publication -/

theorem publishDirectory_unison :
    Unison site own first second
      (outcome (publishDirectory job.output.path.staging job.output.path) first)
      (outcome (publishDirectory job.output.path.staging job.output.path) second) := by
  have bytes : job.output.path.staging.bytes = site.path (suffixed name ".temp") :=
    works.bytes ".temp"
  have removing : Unison site own first second (outcome (removeTree job.output.path) first)
      (outcome (removeTree job.output.path) second) := by
    refine .onFiles ?_
    rw [works.output_bytes]
    exact twins.removeTree works.entry_output works.owns_output
  refine removing.bind fun _ middle otherMiddle removes _ still => ?_
  obtain ⟨bare, removed, rfl⟩ := outcome_onFiles_eq_ok.1 removes
  rw [works.output_bytes] at removed
  obtain ⟨-, vacant⟩ :=
    twins.tidy.removed works.entry_output (twins.owned works.owns_output) removed
  refine .onFiles ?_
  rw [bytes, works.output_bytes]
  exact still.rename_vacant (works.entry (by decide)) works.entry_output
    (works.owns (by decide)) works.owns_output (suffixed_ne_self (by decide)) vacant

end

end Job

end SchemaBuild
