import SchemaBuild.Proofs.Footprints
import SchemaBuild.Proofs.Job.Order

/-!
# Actions in any order

The modules of a manifest have their directories below one generation root. Once this is there, the
job of an action works on entries of its own, so two jobs come to the same in either order.
-/

namespace SchemaBuild

open FileSystem

namespace Job

variable {programs : Programs} {job other : Job} {plot otherPlot : Plot} {ground : Ground}
  {name otherName : Name} {base founded files : FileSystem} {world : World}

/-! ## Jobs that are refused -/

theorem AnyOrder.symm (anyOrder : AnyOrder programs job other world) :
    AnyOrder programs other job world :=
  ⟨anyOrder.otherResult, anyOrder.result, anyOrder.files.symm⟩

/-- A job fails everywhere in the same way, and changes nothing. -/
def IsRefused (programs : Programs) (job : Job) : Prop :=
  ∃ error, ∀ world, outcome (job.run programs) world = (.error error, world)

theorem IsRefused.anyOrder (isRefused : job.IsRefused programs) :
    AnyOrder programs job other world := by
  obtain ⟨error, refused⟩ := isRefused
  exact ⟨by rw [refused, refused], by rw [refused], by rw [refused, refused]; exact .refl _⟩

theorem isRefused_of_words (none : Text.words job.xsdc = []) : job.IsRefused programs :=
  ⟨.emptyCommand, fun world => by rw [run, none]; rfl⟩

theorem run_unmade {directory : Path} (works : job.WorksIn directory name)
    (runs : Text.words job.xsdc ≠ []) {error : FileError}
    (fails : outcome (FileOperation.makeDirectories directory) world.files =
      (.error error, world.files)) :
    outcome (job.run programs) world = (.error (.update directory error), world) := by
  obtain ⟨program, arguments, words⟩ := List.exists_cons_of_ne_nil runs
  rw [outcome_run_of_words words, makeParent_eq works.parent_output works.ends.ne_nil,
    outcome_onFiles, fails]
  rfl

theorem isRefused_of_not_fits {directory : Path} (works : job.WorksIn directory name)
    (unfit : ¬Fits directory.bytes) : job.IsRefused programs := by
  by_cases runs : Text.words job.xsdc = []
  · exact isRefused_of_words runs
  · obtain ⟨error, refused⟩ := makeDirectories_of_not_fits works.ends.ne_nil unfit
    exact ⟨_, fun world => run_unmade works runs (refused world.files)⟩

theorem AnyOrder.of_failed {error otherError : JobError}
    (fails : outcome (job.run programs) world = (.error error, world))
    (otherFails : outcome (other.run programs) world = (.error otherError, world)) :
    AnyOrder programs job other world := by
  refine ⟨by rw [otherFails], by rw [fails], ?_⟩
  simp only [fails, otherFails]
  exact .refl _

/-! ## Founding -/

theorem run_congr {directory : Path} (works : job.WorksIn directory name)
    (runs : Text.words job.xsdc ≠ [])
    (same : outcome (FileOperation.makeDirectories directory) world.files =
      outcome (FileOperation.makeDirectories directory) files) :
    outcome (job.run programs) world =
      outcome (job.run programs) { world with files := files } := by
  obtain ⟨program, arguments, words⟩ := List.exists_cons_of_ne_nil runs
  rw [outcome_run_of_words words, outcome_run_of_words words,
    makeParent_eq works.parent_output works.ends.ne_nil, outcome_onFiles, outcome_onFiles]
  simp only [same]

theorem AnyOrder.congr {first second : World} (anyOrder : AnyOrder programs job other second)
    (same : outcome (job.run programs) first = outcome (job.run programs) second)
    (otherSame : outcome (other.run programs) first = outcome (other.run programs) second) :
    AnyOrder programs job other first := by
  refine ⟨?_, ?_, ?_⟩ <;> rw [same, otherSame]
  · exact anyOrder.result
  · exact anyOrder.otherResult
  · exact anyOrder.files

/-! ## Two jobs on founded ground -/

/-- The directories of two jobs have different names, or are one directory, in which the jobs work
on different entries. -/
def Distinct (plot otherPlot : Plot) : Prop :=
  plot.name ≠ otherPlot.name ∨
    plot.path = otherPlot.path ∧ plot.name = otherPlot.name ∧
      ∀ name ∈ plot.own, name ∉ otherPlot.own

section

variable (tends : Tends programs job plot ground name)
  (otherTends : Tends programs other otherPlot ground otherName)
include tends otherTends

theorem Tends.anyOrder_of_firm (firm : ground.Firm world.files) (sound : world.files.Sound)
    (distinct : Distinct plot otherPlot) : AnyOrder programs job other world := by
  by_cases runs : Text.words job.xsdc = []
  · exact (isRefused_of_words runs).anyOrder
  by_cases otherRuns : Text.words other.xsdc = []
  · exact (isRefused_of_words otherRuns).anyOrder.symm
  have ready := tends.lies.ready firm sound
  have otherReady := otherTends.lies.ready firm sound
  rcases distinct with different | ⟨path, same, disjoint⟩
  · exact tends.anyOrder firm ready otherTends otherReady (.inl different)
  -- The first job makes the common directory.
  have works := tends.worksIn
  have otherWorks := otherTends.worksIn
  rw [← path] at otherWorks
  rcases tends.lies.founds firm ready ready rfl (.refl ..) with
    ⟨error, makes, -⟩ | ⟨after, _, makes, -, founded, -, twins⟩
  · exact .of_failed (run_unmade works runs makes) (run_unmade otherWorks otherRuns makes)
  · have again := twins.tidy.enters.makeDirectories works.ends works.noSlash tends.lies.fits
    have made := makes.trans again.symm
    refine AnyOrder.congr ?_ (run_congr works runs made) (run_congr otherWorks otherRuns made)
    have proper := tends.lies.proper
    exact tends.anyOrder firm (founded.ready proper rfl ready) otherTends
      (founded.ready proper same.symm otherReady) (.inr ⟨same, founded.hasDirectory, disjoint⟩)

/-- Before the ground is there, the job that is first makes it. -/
theorem Tends.anyOrder_of_founds (distinct : Distinct plot otherPlot) (sound : world.files.Sound)
    (start : world.files.HasDirectory (walkStart ground.path.bytes world.files.working))
    (founds : outcome (FileOperation.makeDirectories ground.path) world.files = (.ok (), founded))
    (firm : ground.Firm founded) : AnyOrder programs job other world := by
  by_cases runs : Text.words job.xsdc = []
  · exact (isRefused_of_words runs).anyOrder
  by_cases otherRuns : Text.words other.xsdc = []
  · exact (isRefused_of_words otherRuns).anyOrder.symm
  have soundThen := (makeDirectories_grown founds).1.sound sound
  have onGround : AnyOrder programs job other { world with files := founded } :=
    tends.anyOrder_of_firm otherTends firm soundThen distinct
  have lies := tends.lies
  have otherLies := otherTends.lies
  have made := makeDirectories_founded lies.goesOn lies.isParent lies.fits start founds
  have otherMade :=
    makeDirectories_founded otherLies.goesOn otherLies.isParent otherLies.fits start founds
  exact onGround.congr (run_congr tends.worksIn runs (made.1.trans made.2.symm))
    (run_congr otherTends.worksIn otherRuns (otherMade.1.trans otherMade.2.symm))

end

end Job

/-! ## Planned jobs -/

namespace Schema

def plot (schema : Schema) (root : Path) (language : Language) : Plot where
  path := schema.directory root
  name := Bytes.ofString schema.name
  own := Job.entryNames language.outputName

theorem disjoint_entryNames {language other : Language} (different : language ≠ other) :
    ∀ name ∈ Job.entryNames language.outputName, name ∉ Job.entryNames other.outputName := by
  cases language <;> cases other <;> first | exact absurd rfl different | decide +kernel

def entriesFor (schema : Schema) (language : Language) : List (Name × Name) :=
  (Job.entryNames language.outputName).map fun name => (Bytes.ofString schema.name, name)

theorem liesOn (schema : Schema) {root : Path} {language : Language} {ground : Ground}
    (isParent : (schema.directory root).parent? = some ground.path)
    (fits : Fits (schema.directory root).bytes)
    (aboveFits : ground.path.text = "" ∨ Fits ground.path.bytes)
    (entries : schema.entriesFor language ⊆ ground.entries) :
    (schema.plot root language).LiesOn ground := by
  obtain ⟨parent, common⟩ := parent?_directory root
  obtain ⟨same, goesOn⟩ := common schema
  obtain rfl : parent = ground.path := Option.some.inj (same.symm.trans isParent)
  exact ⟨isParent, goesOn, schema.isProper_name, schema.endsInSlash_directory root, fits,
    aboveFits, fun name member => entries (List.mem_map_of_mem member)⟩

theorem tends {schema : Schema} {root : Path} {plan : Plan} {action : Action} {ground : Ground}
    {programs : Programs} {xsdc : String} (planned : schema.plan root = .ok plan)
    (member : action ∈ plan.actions)
    (lies : (schema.plot root action.language).LiesOn ground)
    (behaves : Job.Behaves programs (.ofAction action xsdc)) :
    (Job.ofAction action xsdc).Tends programs (schema.plot root action.language) ground
      action.language.outputName := by
  have works := worksIn_of_plan planned member xsdc
  refine ⟨lies, works, fun fits => ?_, behaves⟩
  obtain ⟨package, named, isAction⟩ := action_of_plan planned member
  have promised := outputs_ne_nil_of_plan planned member
  rw [works.staging_bytes] at fits
  refine ⟨works, rfl, List.Subset.refl _, fits, ?_⟩
  rw [Job.targets, if_neg (by simpa [Job.ofAction] using promised)]
  exact outputs_inside (schema.package_isPackageName package named) isAction

end Schema

namespace Selection

variable {selection : Selection} {root : Path} {schema other : Schema} {plan otherPlan : Plan}
  {action otherAction : Action}

theorem distinct_plots (plans : PlansModules root selection) (taken : schema ∈ selection.schemas)
    (otherTaken : other ∈ selection.schemas) (planned : schema.plan root = .ok plan)
    (otherPlanned : other.plan root = .ok otherPlan) (member : action ∈ plan.actions)
    (otherMember : otherAction ∈ otherPlan.actions) (different : action ≠ otherAction) :
    Job.Distinct (schema.plot root action.language) (other.plot root otherAction.language) := by
  by_cases same : schema.name = other.name
  · have found := (plans schema.name plan).2 ⟨schema, taken, rfl, planned⟩
    have otherFound := (plans schema.name otherPlan).2 ⟨other, otherTaken, same.symm, otherPlanned⟩
    obtain rfl : otherPlan = plan := Option.some.inj (otherFound.symm.trans found)
    have languages : action.language ≠ otherAction.language := by
      obtain ⟨package, -, actions⟩ := Schema.actions_of_plan planned
      rw [actions] at member otherMember
      simp only [List.mem_cons, List.not_mem_nil, or_false] at member otherMember
      rcases member with rfl | rfl <;> rcases otherMember with rfl | rfl <;>
        first | exact absurd rfl different | exact nofun
    exact .inr ⟨by rw [Schema.plot, Schema.plot, Schema.directory, Schema.directory, same],
      congrArg Bytes.ofString same, Schema.disjoint_entryNames languages⟩
  · exact .inl fun equal => same (Bytes.ofString_inj equal)

/-- Two actions of a manifest come to the same in either order, if the directory above those of the
modules is there or can be made, and the way there does not depend on the entries of the actions,
which hold nothing but directories and files with one name. -/
theorem actions_run_in_any_order {manifest : Manifest} {programs : Programs} {xsdc : String}
    {ground : Ground} {world : World} {founded : FileSystem}
    (taken : schema ∈ (ofManifest manifest root).schemas)
    (otherTaken : other ∈ (ofManifest manifest root).schemas)
    (planned : schema.plan root = .ok plan) (otherPlanned : other.plan root = .ok otherPlan)
    (member : action ∈ plan.actions) (otherMember : otherAction ∈ otherPlan.actions)
    (different : action ≠ otherAction)
    (isParent : (schema.directory root).parent? = some ground.path)
    (entries : ground.entries =
      schema.entriesFor action.language ++ other.entriesFor otherAction.language)
    (sound : world.files.Sound) (working : world.files.HasDirectory world.files.working)
    (founds : outcome (FileOperation.makeDirectories ground.path) world.files = (.ok (), founded))
    (firm : ground.Firm founded)
    (behaves : Job.Behaves programs (.ofAction action xsdc))
    (otherBehaves : Job.Behaves programs (.ofAction otherAction xsdc)) :
    Job.AnyOrder programs (.ofAction action xsdc) (.ofAction otherAction xsdc) world := by
  have works := Schema.worksIn_of_plan planned member xsdc
  have otherWorks := Schema.worksIn_of_plan otherPlanned otherMember xsdc
  by_cases fits : Fits (schema.directory root).bytes
  case neg => exact (Job.isRefused_of_not_fits works fits).anyOrder
  by_cases otherFits : Fits (other.directory root).bytes
  case neg => exact (Job.isRefused_of_not_fits otherWorks otherFits).anyOrder.symm
  have start : world.files.HasDirectory (walkStart ground.path.bytes world.files.working) := by
    rw [walkStart]
    split
    · exact world.files.hasDirectory_nil
    · exact working
  obtain ⟨-, there⟩ := makeDirectories_grown founds
  have aboveFits : ground.path.text = "" ∨ Fits ground.path.bytes :=
    (there rfl).imp String.isEmpty_iff.1 fun there => (isDirectory_iff.1 there).1
  have otherParent : (other.directory root).parent? = some ground.path := by
    obtain ⟨parent, common⟩ := Schema.parent?_directory root
    rw [(common other).1, ← (common schema).1, isParent]
  have lies := schema.liesOn isParent fits aboveFits (by
    rw [entries]
    exact List.subset_append_left _ _)
  have otherLies := other.liesOn otherParent otherFits aboveFits (by
    rw [entries]
    exact List.subset_append_right _ _)
  have tends := Schema.tends planned member lies behaves
  have otherTends := Schema.tends otherPlanned otherMember otherLies otherBehaves
  have distinct := distinct_plots (plansModules_ofManifest manifest root) taken otherTaken planned
    otherPlanned member otherMember different
  exact tends.anyOrder_of_founds otherTends distinct sound start founds firm

/-! ## Sample runs -/

theorem isIdentifier_bar : isIdentifier "bar" = true := by
  decide +kernel

def neighbour : Schema :=
  { CommandLine.sample with name := "bar", name_isIdentifier := isIdentifier_bar }

def siblings : Manifest where
  version := 1
  toolchainKeys := none
  declarations := ["foo", "bar"].map fun name => {
    name := name
    srcs := ["foo.xsd"]
    includeFiles := ["types.xsd"]
    packageName := some "com.foo"
    rootElements := ["config"] }

theorem siblings_schemas :
    (ofManifest siblings ⟨"gen"⟩).schemas = [CommandLine.sample, neighbour] :=
  rfl

def neighbourJob : Job :=
  .ofAction (neighbour.javaAction ⟨"gen"⟩ "com.foo") "xsdc"

theorem neighbour_planned : ∃ plan, neighbour.plan ⟨"gen"⟩ = .ok plan ∧
    plan.actions = [neighbour.javaAction ⟨"gen"⟩ "com.foo",
      neighbour.cppAction ⟨"gen"⟩ "com.foo"] := by
  obtain ⟨plan, planned⟩ : ∃ plan, neighbour.plan ⟨"gen"⟩ = .ok plan := ⟨_, rfl⟩
  obtain ⟨package, named, actions⟩ := Schema.actions_of_plan planned
  obtain rfl := Option.some.inj named
  exact ⟨plan, planned, actions⟩

theorem behaves_generating {job : Job} {program : String}
    (words : Text.words job.xsdc = [program]) : Job.Behaves Job.generating job :=
  ⟨Job.confined_generating words,
    Job.reproducible_changing (fun _ _ _ _ sound otherSound empty otherEmpty =>
      samePlace_putFile sound otherSound empty otherEmpty {}) (Job.command_drop words)⟩

def siblingGround : Ground where
  path := ⟨"gen"⟩
  left := linkLimit
  location := [Bytes.ofString "gen"]
  entries := CommandLine.sample.entriesFor .java ++ neighbour.entriesFor .java

theorem siblings_run_in_any_order :
    Job.AnyOrder Job.generating Job.sample neighbourJob {} ∧
      (outcome (Job.sample.run Job.generating) {}).1 = .ok () ∧
      (outcome (neighbourJob.run Job.generating) {}).1 = .ok () := by
  obtain ⟨plan, planned, actions⟩ := Job.sample_planned
  obtain ⟨otherPlan, otherPlanned, otherActions⟩ := neighbour_planned
  have taken : CommandLine.sample ∈ (ofManifest siblings ⟨"gen"⟩).schemas := by
    rw [siblings_schemas]
    exact List.mem_cons_self
  have otherTaken : neighbour ∈ (ofManifest siblings ⟨"gen"⟩).schemas := by
    rw [siblings_schemas]
    exact List.mem_cons_of_mem _ List.mem_cons_self
  have founds : outcome (FileOperation.makeDirectories ⟨"gen"⟩) ({} : FileSystem) =
      (.ok (), FileSystem.put {} [] (Bytes.ofString "gen")
        (.directory (.empty usualDirectoryPermissions))) := by
    decide +kernel
  have names : pathNames (Bytes.ofString "gen") = [Bytes.ofString "gen"] := by decide +kernel
  have steps : ∀ name ∈ pathNames (Bytes.ofString "gen"), IsStep name := by
    rw [names, List.forall_mem_singleton]
    exact ⟨by decide +kernel, by decide +kernel, by decide +kernel, by decide +kernel⟩
  have firm : siblingGround.Firm (FileSystem.put {} [] (Bytes.ofString "gen")
      (.directory (.empty usualDirectoryPermissions))) :=
    Ground.firm_of_empty steps rfl (by decide +kernel)
      (node?_put_below (hasDirectory_nil _) [])
  refine ⟨?_, by decide +kernel, by decide +kernel⟩
  exact actions_run_in_any_order taken otherTaken planned otherPlanned
    (actions ▸ List.mem_cons_self) (otherActions ▸ List.mem_cons_self) (by decide +kernel)
    (by decide +kernel) rfl (by decide +kernel) (hasDirectory_nil _) founds firm
    (behaves_generating Job.words_xsdc) (behaves_generating Job.words_xsdc)

structure DependOnOrder (manifest : Manifest) (root : Path) (action other : Action)
    (world : World) : Prop where
  member : action ∈ (ofManifest manifest root).actions
  otherMember : other ∈ (ofManifest manifest root).actions
  different : action ≠ other
  sound : world.files.Sound
  noLink : ∀ place target, world.files.node? place ≠ some (.link target)
  behaves : Job.Behaves Job.generating (.ofAction action "xsdc")
  otherBehaves : Job.Behaves Job.generating (.ofAction other "xsdc")
  depend : ¬Job.AnyOrder Job.generating (.ofAction action "xsdc") (.ofAction other "xsdc") world

theorem DependOnOrder.of_checks {manifest : Manifest} {root : Path} {action other : Action}
    {world : World}
    (checks : (action ∈ (ofManifest manifest root).actions ∧
      other ∈ (ofManifest manifest root).actions ∧ action ≠ other) ∧ world.files.Sound ∧
        ∀ leaf ∈ world.files.root.leaves, world.files.node? leaf = some (.file 0))
    (depend : ¬Job.AnyOrder Job.generating (.ofAction action "xsdc") (.ofAction other "xsdc")
      world) : DependOnOrder manifest root action other world := by
  obtain ⟨⟨member, otherMember, different⟩, sound, onlyFiles⟩ := checks
  refine ⟨member, otherMember, different, sound, fun place target found => ?_,
    behaves_generating Job.words_xsdc, behaves_generating Job.words_xsdc, depend⟩
  have isLeaf := (Directory.mem_leaves sound).2 ⟨_, found, rfl⟩
  rw [onlyFiles place isLeaf] at found
  cases found

def shared : World where
  files := {
    root := .ofList [(Bytes.ofString "gen", .directory (.ofList [
      (Bytes.ofString "bar", .directory (.ofList [
        (Bytes.ofString "xsdcgen.srcjar.d", .file 0)])),
      (Bytes.ofString "foo", .directory (.ofList [
        (Bytes.ofString "xsdcgen.srcjar.d", .file 0)]))]))]
    stored := #[{ content := .ofString "old" }] }

def built : World where
  files := {
    root := .ofList [(Bytes.ofString "gen", .directory (.ofList [
      (Bytes.ofString "foo", .directory (.ofList [
        (Bytes.ofString "cpp", .directory (.ofList []))]))]))] }

def blocked : World where
  files := {
    root := .ofList [(Bytes.ofString "file", .file 0)]
    stored := #[{ content := .ofString "text" }] }

/-- The order matters if dependency files are one file, if the generation root is behind what one of
the jobs publishes, and if it cannot be made, but a part of the way there. -/
theorem siblings_depend_on_order :
    DependOnOrder siblings ⟨"gen"⟩ (CommandLine.sample.javaAction ⟨"gen"⟩ "com.foo")
      (neighbour.javaAction ⟨"gen"⟩ "com.foo") shared ∧
    DependOnOrder siblings ⟨"gen/foo/cpp/../.."⟩
      (CommandLine.sample.javaAction ⟨"gen/foo/cpp/../.."⟩ "com.foo")
      (CommandLine.sample.cppAction ⟨"gen/foo/cpp/../.."⟩ "com.foo") built ∧
    DependOnOrder siblings ⟨"x/../file/c"⟩
      (CommandLine.sample.javaAction ⟨"x/../file/c"⟩ "com.foo")
      (neighbour.javaAction ⟨"x/../file/c"⟩ "com.foo") blocked := by
  refine ⟨.of_checks (by decide +kernel) fun anyOrder => ?_,
    .of_checks (by decide +kernel) fun anyOrder => ?_,
    .of_checks (by decide +kernel) fun anyOrder => ?_⟩
  · have same := anyOrder.files.view
      [Bytes.ofString "gen", Bytes.ofString "foo", Bytes.ofString "xsdcgen.srcjar.d"]
    exact absurd same (by decide +kernel)
  · have same := anyOrder.files.view
      [Bytes.ofString "gen", Bytes.ofString "foo", Bytes.ofString "cpp"]
    exact absurd same (by decide +kernel)
  · exact absurd anyOrder.result (by decide +kernel)

end Selection

end SchemaBuild
