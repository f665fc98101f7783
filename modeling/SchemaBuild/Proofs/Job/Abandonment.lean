import SchemaBuild.Proofs.FileSystem.Reaching
import SchemaBuild.Proofs.Job.Release

/-!
# Jobs without a compiler's success

What a job leaves behind whose compiler fails or cannot be started: the directories above its
staging directory, and nothing else that was not there. This holds for every job, however its paths
are written.
-/

namespace SchemaBuild

open FileSystem

namespace JobError

def IsOfCommand : JobError → Prop
  | .emptyCommand => True
  | .start _ _ => True
  | .compiler _ => True
  | _ => False

end JobError

namespace Job

/-! ## Steps that do not run the compiler -/

def NeedsNoCompiler {α : Type} (step : Step α) : Prop :=
  ∀ world error after, outcome step world = (.error error, after) → ¬error.IsOfCommand

namespace NeedsNoCompiler

variable {α β : Type}

theorem pure (value : α) : NeedsNoCompiler (Pure.pure value : Step α) := by
  intro world error after failed
  cases failed

theorem throw {error : JobError} (other : ¬error.IsOfCommand) :
    NeedsNoCompiler (MonadExcept.throw error : Step α) := by
  intro world _ after failed
  cases failed
  exact other

theorem bind {first : Step α} {next : α → Step β} (ofFirst : NeedsNoCompiler first)
    (ofNext : ∀ value, NeedsNoCompiler (next value)) : NeedsNoCompiler (first >>= next) := by
  intro world error after failed
  rcases outcome_bind_eq_error.1 failed with here | ⟨value, middle, -, behind⟩
  · exact ofFirst world error after here
  · exact ofNext value middle error after behind

theorem onFiles {cause : FileError → JobError} (operation : FileOperation α)
    (other : ∀ error, ¬(cause error).IsOfCommand) :
    NeedsNoCompiler (Job.onFiles cause operation) := by
  intro world error after failed
  rw [outcome_onFiles] at failed
  obtain ⟨result, -⟩ := Prod.mk.inj failed
  cases tried : (outcome operation world.files).1 with
  | ok value =>
      rw [tried] at result
      cases result
  | error reason =>
      rw [tried, mapError_error] at result
      exact Except.error.inj result ▸ other reason

theorem get : NeedsNoCompiler (MonadState.get : Step World) := by
  intro world error after failed
  cases failed

theorem modified (change : World → World) : NeedsNoCompiler (modify change : Step PUnit) := by
  intro world error after failed
  cases failed

theorem run {ε : Type} (step : ExceptT ε (StateM World) α) :
    NeedsNoCompiler (liftM step.run : Step (Except ε α)) := by
  intro world error after failed
  cases failed

end NeedsNoCompiler

theorem makeParent_needsNoCompiler (path : Path) : NeedsNoCompiler (makeParent path) := by
  rw [makeParent]
  split
  · exact .pure ()
  · split
    · exact .pure ()
    · exact .onFiles _ fun _ => id

theorem makeStaging_needsNoCompiler (staging : Path) : NeedsNoCompiler (makeStaging staging) :=
  .bind (.onFiles _ fun _ => id) fun _ => .onFiles _ fun _ => id

theorem publish_needsNoCompiler (staging : Path) (output : Publication) :
    NeedsNoCompiler (publish staging output) := by
  cases output with
  | archive path =>
      refine .bind (.run _) fun result => ?_
      cases result with
      | error error => exact .bind (.onFiles _ fun _ => id) fun _ => .throw id
      | ok => exact .onFiles _ fun _ => id
  | directory path => exact .bind (.onFiles _ fun _ => id) fun _ => .onFiles _ fun _ => id

theorem writeText_needsNoCompiler (path : Path) (text : String) :
    NeedsNoCompiler (writeText path text) := by
  refine .bind (.onFiles _ fun _ => id) fun _ => .bind .get fun world => ?_
  split
  · exact .modified _
  · exact .pure ()

theorem finish_needsNoCompiler (job : Job) : NeedsNoCompiler job.finish := by
  refine .bind .get fun world => ?_
  split
  · exact .throw id
  · exact .bind (makeParent_needsNoCompiler _) fun _ => writeText_needsNoCompiler _ _

/-! ## Jobs that fail with their compiler -/

variable {programs : Programs} {job : Job} {world parents empty after : World} {error : JobError}

theorem runCompiler_error {program : String} {arguments : List String}
    (failed : outcome (runCompiler programs program arguments) world = (.error error, after)) :
    error ≠ .emptyCommand := by
  rw [outcome_runCompiler] at failed
  have counted := congrArg Prod.fst failed
  simp only [verdict] at counted
  intro empty
  rw [empty] at counted
  split at counted
  · cases counted
  · split at counted <;> cases counted

/-- A job that fails with its compiler has made an empty staging directory, run the compiler, and
removed the staging directory. A job without a command has done nothing. -/
theorem run_of_command (failed : outcome (job.run programs) world = (.error error, after))
    (ofCommand : error.IsOfCommand) :
    error = .emptyCommand ∧ after = world ∨
      error ≠ .emptyCommand ∧ ∃ parents empty compiled,
        outcome (makeParent job.output.path) world = (.ok (), parents) ∧
        outcome (makeStaging job.output.path.staging) parents = (.ok (), empty) ∧
        compiled.files = (programs job.command empty).files ∧
        after = (outcome (removeTree job.output.path.staging) compiled).2 := by
  rw [run] at failed
  cases words : Text.words job.xsdc with
  | nil =>
      rw [words] at failed
      obtain ⟨same, rfl⟩ := Prod.mk.inj failed
      exact .inl ⟨(Except.error.inj same).symm, rfl⟩
  | cons program arguments =>
      right
      rw [words] at failed
      simp only at failed
      rcases outcome_bind_eq_error.1 failed with here | ⟨⟨⟩, parents, made, failed⟩
      · exact absurd ofCommand (makeParent_needsNoCompiler _ _ _ _ here)
      rcases outcome_bind_eq_error.1 failed with here | ⟨⟨⟩, empty, cleared, failed⟩
      · exact absurd ofCommand (makeStaging_needsNoCompiler _ _ _ _ here)
      rw [outcome_bind, outcome_observing] at failed
      simp only at failed
      rw [outcome_bind, outcome_discard, outcome_observing] at failed
      simp only [Except.map] at failed
      rw [outcome_bind, outcome_ofExcept] at failed
      cases result : (outcome (job.compileAndPublish programs program arguments) empty).1 with
      | ok =>
          rw [result] at failed
          exact absurd ofCommand (finish_needsNoCompiler job _ _ _ failed)
      | error reason =>
          rw [result] at failed
          obtain ⟨same, rfl⟩ := Prod.mk.inj failed
          obtain rfl := Except.error.inj same
          have whole : outcome (job.compileAndPublish programs program arguments) empty =
              (.error reason,
                (outcome (job.compileAndPublish programs program arguments) empty).2) :=
            Prod.ext result rfl
          rcases outcome_bind_eq_error.1 whole with compiling | ⟨⟨⟩, _, -, publishing⟩
          · refine ⟨runCompiler_error compiling, parents, empty, _, made, cleared, ?_, rfl⟩
            have files := runCompiler_files programs program (arguments ++
              [job.schema.text, job.packageName, job.output.path.staging.text] ++ job.args) empty
            rw [compiling, command_eq words] at files
            exact files
          · exact absurd ofCommand (publish_needsNoCompiler _ _ _ _ _ publishing)

/-! ## The way to the staging directory -/

theorem last_staging (path : Path) :
    ∃ name, IsProper name ∧ (pathNames path.staging.bytes).getLast? = some name ∧
      endsInSlash path.staging.bytes = false :=
  path.last_withSuffix (by decide) (by decide +kernel)

theorem parent?_staging (path : Path) :
    ∃ parent, path.staging.parent? = some parent ∧
      (parent.text ≠ "" → ∃ name, parent.GoesOn path.staging name) ∧
      (path.parent? = some parent ∨
        parent.text = "" ∧ (∀ other, path.parent? = some other → other.text = "") ∨
          path.parent? = parent.parent? ∧ ∀ other, parent.parent? = some other →
            other.text ≠ "" → ∃ name, other.GoesOn parent name) :=
  path.parent?_withSuffix (by decide) (by decide)

/-- Everything that a job makes before its staging directory is on the way there. -/
theorem makeParent_staging {path : Path}
    (made : outcome (makeParent path) world = (.ok (), parents)) :
    Grown path.staging world.files parents.files ∧
      ∀ parent, path.parent? = some parent → parent.text ≠ "" →
        parents.files.isDirectory parent.bytes = true := by
  obtain ⟨own, isOwn, -, above⟩ := parent?_staging path
  rw [makeParent] at made
  cases isParent : path.parent? with
  | none =>
      rw [isParent] at made
      obtain ⟨-, rfl⟩ := Prod.mk.inj made
      exact ⟨.refl .., fun parent same => by cases same⟩
  | some parent =>
      rw [isParent] at made
      simp only at made
      split at made
      next empty =>
        obtain ⟨-, rfl⟩ := Prod.mk.inj made
        refine ⟨.refl .., fun parent same text => ?_⟩
        obtain rfl := Option.some.inj same
        exact absurd (String.isEmpty_iff.1 empty) text
      next text =>
        obtain ⟨files, reached, rfl⟩ := outcome_onFiles_eq_ok.1 made
        obtain ⟨grown, there⟩ := makeDirectories_grown reached
        refine ⟨?_, fun other same _ => ?_⟩
        · rcases above with same | ⟨-, empty⟩ | ⟨same, -⟩
          · rw [isParent] at same
            obtain rfl := Option.some.inj same
            exact grown.above isOwn
          · exact absurd (String.isEmpty_iff.2 (empty parent isParent)) text
          · exact (grown.above (same.symm.trans isParent)).above isOwn
        · obtain rfl := Option.some.inj same
          exact (there rfl).resolve_left text

end Job

namespace FileSystem

/-- Nothing is left of an entry. Its path leads to where it stood, and only directories on the way
there came to be. -/
structure Abandoned (path : Path) (before after parents : FileSystem) (location : Location)
    (name : Name) : Prop where
  grown : Grown path before parents
  changed : ChangedIn location [name] parents after
  reaches : ∃ left, after.Reaches path.bytes left location name
  gone : after.node? (location ++ [name]) = none

/-- An empty directory was made for an entry, whatever stood there before. -/
structure Cleared (path : Path) (before after parents bare : FileSystem) (left : Nat)
    (location : Location) (name : Name) (permissions : Nat) : Prop where
  grown : Grown path before parents
  changed : ChangedIn location [name] parents bare
  reaches : bare.Reaches path.bytes left location name
  vacant : bare.node? (location ++ [name]) = none
  put : after = bare.put location name (.directory (.empty permissions))

end FileSystem

namespace Job

variable {programs : Programs} {job : Job} {world parents empty after : World}

theorem makeStaging_cleared {path : Path} (sound : world.files.Sound)
    (made : outcome (makeParent path) world = (.ok (), parents))
    (spares : parents.files.SparesEntry path.staging.bytes)
    (clears : outcome (makeStaging path.staging) parents = (.ok (), empty)) :
    ∃ grown bare left location name permissions, Cleared path.staging world.files empty.files grown
      bare left location name permissions := by
  obtain ⟨grown, there⟩ := makeParent_staging made
  have parentsSound := grown.sound sound
  obtain ⟨name, proper, last, noSlash⟩ := last_staging path
  obtain ⟨⟨⟩, cleared, removes, makes⟩ := outcome_bind_eq_ok.1 clears
  obtain ⟨bare, removed, rfl⟩ := outcome_onFiles_eq_ok.1 removes
  obtain ⟨files, filled, rfl⟩ := outcome_onFiles_eq_ok.1 makes
  simp only at filled ⊢
  by_cases reached : ∃ left location, parents.files.Reaches path.staging.bytes left location name
  · obtain ⟨left, location, reaches⟩ := reached
    have stays (other : FileSystem) (changed : ChangedIn location [name] parents.files other) :
        other.Reaches path.staging.bytes left location name :=
      (spares left location name reaches).mono (changed.includes_erase parentsSound reaches.has)
        changed.working
    rcases reaches.removeTree_kept parentsSound stays removed with
      ⟨-, changed, bareReaches, vacant⟩ | ⟨⟨_, failed⟩, -⟩
    · obtain ⟨permissions, put⟩ := bareReaches.makeDirectories vacant filled
      exact ⟨parents.files, bare, left, location, name, permissions, grown, changed, bareReaches,
        vacant, put⟩
    · cases failed
  · obtain ⟨error, fails⟩ := removeTree_unreached proper last noSlash reached
    have same : bare = parents.files := by
      rw [outcome_ifThere, fails] at removed
      cases error
      case notFound => exact (Prod.mk.inj removed).2.symm
      all_goals cases removed
    subst same
    obtain ⟨own, isOwn, goesOn, above⟩ := parent?_staging path
    have goesOnToName (text : own.text ≠ "") : own.GoesOn path.staging name := by
      obtain ⟨other, goesOn⟩ := goesOn text
      obtain ⟨dots, -, names⟩ := goesOn.names
      rw [names, List.getLast?_concat] at last
      exact Option.some.inj last ▸ goesOn
    have aboveThere (other : Path) (isParent : own.parent? = some other) (text : other.text ≠ "") :
        parents.files.isDirectory other.bytes = true ∧ ∃ name, other.GoesOn own name := by
      have ownText : own.text ≠ "" := by
        intro empty
        have none : (Path.mk "").parent? = none := by decide +kernel
        rw [show own = ⟨""⟩ from congrArg Path.mk empty, none] at isParent
        cases isParent
      rcases above with same | ⟨empty, -⟩ | ⟨same, goesOn⟩
      · have isThere : files.isDirectory path.staging.bytes = true :=
          ((makeDirectories_grown filled).2 rfl).resolve_left fun empty => by
            rw [Path.bytes, String.isEmpty_iff.1 empty] at last
            cases last
        obtain ⟨_, _, _, after, -⟩ := reaches_of_isDirectory proper last noSlash isThere
        obtain ⟨-, left, location, has, leads⟩ :=
          leads_of_goesOn (goesOnToName ownText) (there own same ownText)
        exact absurd ⟨left, location, after.named, last, noSlash, after.fits, leads, has⟩ reached
      · exact absurd empty ownText
      · exact ⟨there other (same.trans isParent) text, goesOn other isParent text⟩
    obtain ⟨grownOn, left, location, permissions, further, reaches, vacant, put⟩ :=
      makeDirectories_unreached proper last noSlash reached isOwn goesOnToName aboveThere filled
    exact ⟨grownOn, grownOn, left, location, name, permissions, grown.trans further,
      .refl .., reaches, vacant, put⟩

/-- A compiler that runs where a directory was made for an entry changes nothing but this directory,
and leaves it there. -/
theorem compiled_of_cleared {grown bare : FileSystem} {left : Nat} {location : Location}
    {name : Name} {permissions : Nat} {path : Path} {before : FileSystem}
    (bareSound : bare.Sound)
    (cleared : Cleared path before empty.files grown bare left location name permissions)
    (confined : StaysBelow programs job.command path)
    (compiled : after.files = (programs job.command empty).files) :
    ChangedIn location [name] bare after.files ∧ after.files.HasDirectory (location ++ [name]) := by
  have reaches := cleared.reaches
  have put : ChangedIn location [name] bare empty.files := by
    rw [cleared.put]
    exact .put reaches.has reaches.named.toIsProper fun _ => by
      rw [Node.Sound, Directory.Sound]
      trivial
  have found : empty.files.node? (location ++ [name]) =
      some (.directory (.empty permissions)) := by
    rw [cleared.put]
    exact node?_put_below reaches.has []
  have emptyReaches := reaches.mono (put.includes (not_passable_of_vacant cleared.vacant))
    put.working
  have located : empty.files.locate true path.bytes =
      .ok (.node (location ++ [name]) (.directory (.empty permissions))) := by
    rw [FileSystem.locate, if_pos rfl]
    exact emptyReaches.seek_node .target (by simp) found
  have below := confined empty _ _ (put.sound bareSound) located
  rw [← compiled] at below
  exact ⟨put.trans below.changedIn, below.hasDirectory ⟨_, found⟩⟩

theorem abandoned_of_cleared {grown bare : FileSystem} {left : Nat} {location : Location}
    {name : Name} {permissions : Nat} {path : Path} {before : FileSystem}
    (sound : grown.Sound)
    (cleared : Cleared path before empty.files grown bare left location name permissions)
    (confined : StaysBelow programs job.command path)
    (compiled : after.files = (programs job.command empty).files) :
    Abandoned path before (outcome (removeTree path) after).2.files grown location name := by
  have bareSound := cleared.changed.sound sound
  obtain ⟨changed, has⟩ := compiled_of_cleared bareSound cleared confined compiled
  have reachesSince {files : FileSystem} (since : ChangedIn location [name] bare files) :=
    cleared.reaches.mono (since.includes (not_passable_of_vacant cleared.vacant)) since.working
  rw [removeTree_files]
  generalize tried : outcome (FileOperation.removeTree path.bytes) after.files = attempt
  obtain ⟨result, behind⟩ := attempt
  obtain ⟨removed, cases⟩ := (reachesSince changed).removeTree (changed.sound bareSound) tried
  have sinceBare := changed.trans removed
  have reachesBehind := reachesSince sinceBare
  refine ⟨cleared.grown, cleared.changed.trans sinceBare, ⟨left, reachesBehind⟩, ?_⟩
  rcases cases left location name reachesBehind with ⟨gone, -⟩ | ⟨-, -, noDirectory⟩
  · exact gone
  · exact absurd has noDirectory

/-- A job without a command changes nothing at all. When the compiler of a job fails or cannot be
started, the directories above the staging directory are there, nothing is at its path, and
everything else is what it was before. -/
theorem run_failed_command (programs : Programs) (job : Job) (world : World) :
    ((outcome (job.run programs) world).1 = .error .emptyCommand →
      (outcome (job.run programs) world).2 = world) ∧
    (world.files.Sound → StaysBelow programs job.command job.output.path.staging →
      (job.parents world).files.SparesEntry job.output.path.staging.bytes →
      ((∃ program reason, (outcome (job.run programs) world).1 = .error (.start program reason)) ∨
        ∃ status, (outcome (job.run programs) world).1 = .error (.compiler status)) →
      ∃ parents location name, Abandoned job.output.path.staging world.files
        (outcome (job.run programs) world).2.files parents location name) := by
  have whole {error : JobError} (failed : (outcome (job.run programs) world).1 = .error error) :
      outcome (job.run programs) world = (.error error, (outcome (job.run programs) world).2) :=
    Prod.ext failed rfl
  refine ⟨fun failed => ?_, fun sound confined spares failed => ?_⟩
  · rcases run_of_command (whole failed) trivial with ⟨-, same⟩ | ⟨other, -⟩
    · exact same
    · exact absurd rfl other
  · obtain ⟨error, failed, ofCommand, other⟩ : ∃ error,
        (outcome (job.run programs) world).1 = .error error ∧ error.IsOfCommand ∧
          error ≠ .emptyCommand := by
      rcases failed with ⟨program, reason, failed⟩ | ⟨status, failed⟩
      · exact ⟨_, failed, trivial, by simp⟩
      · exact ⟨_, failed, trivial, by simp⟩
    rcases run_of_command (whole failed) ofCommand with
      ⟨empty, -⟩ | ⟨-, parents, empty, compiled, made, clears, files, removed⟩
    · exact absurd empty other
    · have same : job.parents world = parents := by rw [Job.parents, made]
      rw [same] at spares
      obtain ⟨grown, bare, left, location, name, permissions, cleared⟩ :=
        makeStaging_cleared sound made spares clears
      rw [removed]
      exact ⟨grown, location, name,
        abandoned_of_cleared (cleared.grown.sound sound) cleared confined files⟩

/-! ## Sample runs -/

def aborting : Programs := fun command world =>
  { generating command world with outcome := .ok (.code 3) }

theorem sparesEntry_sample {files : FileSystem} (working : files.working = [])
    (has : files.HasDirectory [Bytes.ofString "gen", Bytes.ofString "foo"]) :
    files.SparesEntry sample.output.path.staging.bytes := by
  have path : sample.output.path.staging.bytes = (CommandLine.sample.directory ⟨"gen"⟩).bytes ++
      slashByte :: suffixed Language.java.outputName ".temp" := by decide +kernel
  have spares : files.Spares (CommandLine.sample.directory ⟨"gen"⟩).bytes
      (suffixed Language.java.outputName ".temp") := spares_sample working has _
  rw [path]
  exact spares.sparesEntry (by decide +kernel) (by decide +kernel)

theorem sample_run_failed_command :
    (outcome (sample.run aborting) stale).1 = .error (.compiler (.code 3)) ∧
      ∃ parents location name, Abandoned sample.output.path.staging stale.files
        (outcome (sample.run aborting) stale).2.files parents location name := by
  have failed : (outcome (sample.run aborting) stale).1 = .error (.compiler (.code 3)) := by
    decide +kernel
  have confined : StaysBelow aborting sample.command sample.output.path.staging := confined_sample
  have parents : (sample.parents stale).files = stale.files := by decide +kernel
  have spares : (sample.parents stale).files.SparesEntry sample.output.path.staging.bytes := by
    rw [parents]
    exact sparesEntry_sample rfl ⟨_, rfl⟩
  exact ⟨failed, (run_failed_command aborting sample stale).2 (by decide +kernel) confined spares
    (.inr ⟨_, failed⟩)⟩

def entangled : Job :=
  { sample with output := .archive ⟨"o.temp/../o"⟩ }

/-- When the compiler of such a job fails, the directory above the staging directory goes with
it. -/
theorem run_removes_parent :
    StaysBelow aborting entangled.command entangled.output.path.staging ∧
    (outcome (entangled.run aborting) {}).1 = .error (.compiler (.code 3)) ∧
    entangled.output.path.staging.parent? = some ⟨"o.temp/.."⟩ ∧
    (outcome (entangled.run aborting) {}).2.files.exists? (Bytes.ofString "o.temp/..") = false := by
  exact ⟨confined_generating words_xsdc, by decide +kernel, by decide +kernel, by decide +kernel⟩

end Job

end SchemaBuild
