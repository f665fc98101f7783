import SchemaBuild.Proofs.CommandLine.Reading
import SchemaBuild.Proofs.Ninja.Words

/-!
# Running a rule is running its job

The build statement of an action runs the tool with arguments, which the tool reads into a job.
Where it accepts them, the job is the one that is made of the action itself. A value or a path
that looks like an option is never taken for something else without a refusal, because the next
argument, or the end, finds the option before it still waiting, or a position left empty.
-/

namespace SchemaBuild.CommandLine

/-! ## The job of an action -/

open Reading

/-- The tool is to run a job exactly if the arguments of the compile command are read to the end,
and make the job. -/
theorem parse_compile_iff {arguments : List String} {job : Job} :
    parse ("compile" :: arguments) = .ok (.compile job) ↔
      ∃ given, Completes {} arguments given ∧ jobOf given = .ok job := by
  have command : Reading.run toolRule {} ("compile" :: arguments) =
      .ok ({}, some ("compile", arguments)) := by
    simp [Reading.run, toolRule, Reading.lacking?]
  have initial : ({} : Reading).settle = .ok {} := rfl
  simp only [parse, command, parseCommand, complete, Completes, bind, Except.bind]
  cases ran : Reading.run compileRule {} arguments with
  | error stop => cases stop <;> simp [orStop]
  | ok outcome =>
      obtain ⟨last, rest⟩ := outcome
      cases settles : last.settle with
      | error stop => cases stop <;> simp [settles, orStop]
      | ok settled =>
          cases made : jobOf settled.given with
          | error stop => cases stop <;> simp [settles, made, orStop, pure, Except.pure]
          | ok other =>
              simp [settles, made, orStop, pure, Except.pure, initial, discard, Functor.discard,
                Functor.mapConst, Except.map]

theorem positionals_of_jobOf {given : Given} {job : Job} (made : jobOf given = .ok job) :
    2 ≤ given.positionals.length := by
  cases second : given.positionals[1]? with
  | none => simp [jobOf, second, Given.need, bind, Except.bind] at made
  | some output =>
      obtain ⟨bound, -⟩ := List.getElem?_eq_some_iff.1 second
      exact bound

theorem all_append_map (name other : String) (values : List String)
    (before : List (String × String)) (switches positionals : List String) :
    Given.all ⟨switches, before ++ values.map fun value => (other, value), positionals⟩ name =
      Given.all ⟨switches, before, positionals⟩ name ++ if other = name then values else [] := by
  by_cases equal : other = name
  · simp [Given.all, equal]
  · simp [Given.all, equal]

/-- The targets that a command names: the outputs of a C++ action, and none for Java. -/
def namedTargets (action : Action) : List Path :=
  match action.language with
  | .java => []
  | .cpp => action.outputs

def givenOf (xsdc : String) (action : Action) : Given where
  switches := match action.language with
    | .java => ["archive"]
    | .cpp => []
  values := [("xsdc", xsdc), ("package", action.packageName), ("depfile", action.depfile.text)] ++
    (action.implicitInputs.map Path.text).map (fun value => ("include", value)) ++
    action.args.map (fun value => ("xsdc-arg", value)) ++
    ((namedTargets action).map Path.text).map (fun value => ("depfile-target", value))
  positionals := [action.input.text, action.output.text]

def ownWords (xsdc : String) (action : Action) : List String :=
  [xsdc, action.packageName, action.depfile.text] ++ action.implicitInputs.map Path.text ++
    (namedTargets action).map Path.text ++ [action.input.text, action.output.text]

theorem completes_compileWords {given final : Given} {action : Action}
    (noDepfile : given.value? "depfile" = none) (empty : given.positionals = []) :
    (Completes { given := given } (["--depfile", action.depfile.text] ++
        Ninja.compileWords action ++ [action.input.text, action.output.text]) final ∧
        2 ≤ final.positionals.length) ↔
      looksLikeOption action.depfile.text = false ∧
      (∀ path ∈ action.implicitInputs, looksLikeOption path.text = false) ∧
      (∀ path ∈ namedTargets action, looksLikeOption path.text = false) ∧
      looksLikeOption action.input.text = false ∧ looksLikeOption action.output.text = false ∧
      final = { given with
        values := given.values ++ [("depfile", action.depfile.text)] ++
          (action.implicitInputs.map Path.text).map (fun value => ("include", value)) ++
          action.args.map (fun value => ("xsdc-arg", value)) ++
          ((namedTargets action).map Path.text).map (fun value => ("depfile-target", value))
        positionals := [action.input.text, action.output.text] } := by
  have words : ["--depfile", action.depfile.text] ++ Ninja.compileWords action ++
        [action.input.text, action.output.text] =
      ("--" ++ "depfile") :: action.depfile.text ::
        (((action.implicitInputs.map Path.text).flatMap fun value => ["--" ++ "include", value]) ++
        (action.args.map ("--xsdc-arg=" ++ ·) ++
        ((((namedTargets action).map Path.text).flatMap
          fun value => ["--" ++ "depfile-target", value]) ++
        [action.input.text, action.output.text]))) := by
    unfold Ninja.compileWords namedTargets
    cases action.language <;> simp [List.flatMap_map]
  have noPositions : ((((given.withValue "depfile" action.depfile.text).withValues "include"
      (action.implicitInputs.map Path.text)).withValues "xsdc-arg" action.args).withValues
        "depfile-target" ((namedTargets action).map Path.text)).positionals = [] := empty
  rw [words, completes_option ⟨"depfile", .single, false⟩ (by decide) (fun _ => noDepfile),
    completes_options ⟨"include", .many, false⟩ (by decide) rfl, completes_arguments,
    completes_options ⟨"depfile-target", .many, false⟩ (by decide) rfl, and_assoc, and_assoc,
    and_assoc, completes_positions noPositions, List.forall_mem_map, List.forall_mem_map]
  rfl

theorem completes_plainArguments {xsdc : String} {action : Action} {final : Given} :
    (Completes {} (Ninja.plainArguments xsdc action).tail final ∧ 2 ≤ final.positionals.length) ↔
      (∀ word ∈ ownWords xsdc action, looksLikeOption word = false) ∧
        final = givenOf xsdc action := by
  have own : (∀ word ∈ ownWords xsdc action, looksLikeOption word = false) ↔
      looksLikeOption xsdc = false ∧ looksLikeOption action.packageName = false ∧
      looksLikeOption action.depfile.text = false ∧
      (∀ path ∈ action.implicitInputs, looksLikeOption path.text = false) ∧
      (∀ path ∈ namedTargets action, looksLikeOption path.text = false) ∧
      looksLikeOption action.input.text = false ∧ looksLikeOption action.output.text = false := by
    simp only [ownWords, List.forall_mem_append, List.forall_mem_cons, List.forall_mem_map,
      List.not_mem_nil, false_implies, implies_true, and_true, and_assoc]
  have start (rest : List String) :
      Completes {} (("--" ++ "xsdc") :: xsdc :: ("--" ++ "package") :: action.packageName :: rest)
          final ↔
        looksLikeOption xsdc = false ∧ looksLikeOption action.packageName = false ∧
          Completes { given := ⟨[], [("xsdc", xsdc), ("package", action.packageName)], []⟩ } rest
            final := by
    refine (completes_option ⟨"xsdc", .single, false⟩ (by decide) (fun _ => rfl)).trans
      (and_congr_right fun _ => ?_)
    exact completes_option ⟨"package", .single, false⟩ (by decide) (fun _ => rfl)
  rw [own]
  cases language : action.language with
  | java =>
      have words : (Ninja.plainArguments xsdc action).tail =
          ("--" ++ "xsdc") :: xsdc :: ("--" ++ "package") :: action.packageName :: "--archive" ::
            (["--depfile", action.depfile.text] ++ Ninja.compileWords action ++
              [action.input.text, action.output.text]) := by
        simp [Ninja.plainArguments, language]
      rw [words, start, completes_archive rfl, and_assoc, and_assoc,
        completes_compileWords rfl rfl, givenOf, language]
      simp only [and_assoc]
      rfl
  | cpp =>
      have words : (Ninja.plainArguments xsdc action).tail =
          ("--" ++ "xsdc") :: xsdc :: ("--" ++ "package") :: action.packageName ::
            (["--depfile", action.depfile.text] ++ Ninja.compileWords action ++
              [action.input.text, action.output.text]) := by
        simp [Ninja.plainArguments, language]
      rw [words, start, and_assoc, and_assoc, completes_compileWords rfl rfl, givenOf, language]
      simp only [and_assoc]
      rfl

theorem jobOf_inOrder (switches : List String) (xsdc package depfile input output : String)
    (includes args targets : List String) :
    jobOf {
      switches := switches
      values := [("xsdc", xsdc), ("package", package), ("depfile", depfile)] ++
        includes.map (fun value => ("include", value)) ++
        args.map (fun value => ("xsdc-arg", value)) ++
        targets.map (fun value => ("depfile-target", value))
      positionals := [input, output] } = .ok {
        xsdc := xsdc
        schema := ⟨input⟩
        packageName := package
        args := args
        includes := includes.map Path.mk
        output := if switches.contains "archive" then .archive ⟨output⟩ else .directory ⟨output⟩
        depfile := ⟨depfile⟩
        depfileTargets := targets.map Path.mk } := by
  simp only [jobOf, Given.value?, all_append_map]
  simp [Given.all, Given.need, Given.has, bind, Except.bind, pure, Except.pure]

/-- What the command of an action gives makes the job of the action, where the targets of the
dependency file may be left to the default. -/
theorem jobOf_givenOf (xsdc : String) (action : Action) :
    jobOf (givenOf xsdc action) =
      .ok { Job.ofAction action xsdc with depfileTargets := namedTargets action } := by
  have texts (paths : List Path) : (paths.map Path.text).map Path.mk = paths := by
    simp [Function.comp_def]
  rw [givenOf, jobOf_inOrder, texts, texts]
  cases language : action.language <;> simp [Job.ofAction, language]

/-- The command of an action is accepted exactly if no word of it looks like an option, and the job
that it asks for is that of the action. -/
theorem parse_plainArguments_iff {xsdc : String} {action : Action} {job : Job} :
    parse (Ninja.plainArguments xsdc action) = .ok (.compile job) ↔
      (∀ word ∈ ownWords xsdc action, looksLikeOption word = false) ∧
        job = { Job.ofAction action xsdc with depfileTargets := namedTargets action } := by
  have words : Ninja.plainArguments xsdc action =
      "compile" :: (Ninja.plainArguments xsdc action).tail := rfl
  rw [words, parse_compile_iff]
  constructor
  · rintro ⟨given, completes, made⟩
    obtain ⟨noOptions, rfl⟩ :=
      completes_plainArguments.1 ⟨completes, positionals_of_jobOf made⟩
    exact ⟨noOptions, Except.ok.inj (made.symm.trans (jobOf_givenOf xsdc action))⟩
  · rintro ⟨noOptions, rfl⟩
    exact ⟨_, (completes_plainArguments.2 ⟨noOptions, rfl⟩).1, jobOf_givenOf xsdc action⟩

/-- The job that a command of an action asks for: that of the action itself, where the targets of
the dependency file may be left to the default. -/
theorem job_of_plainArguments {action : Action} {xsdc : String} {job : Job}
    (parsed : parse (Ninja.plainArguments xsdc action) = .ok (.compile job)) :
    job = { Job.ofAction action xsdc with depfileTargets := namedTargets action } :=
  (parse_plainArguments_iff.1 parsed).2

/-! ## Running the job -/

/-- Jobs that differ in nothing but targets that are left to the default run alike. -/
theorem run_eq_of_targets {left right : Job} (equal : right = { left with
      depfileTargets := right.depfileTargets })
    (targets : right.targets = left.targets) (programs : Programs) :
    right.run programs = left.run programs := by
  have finish : right.finish = left.finish := by
    unfold Job.finish
    rw [targets, equal]
  unfold Job.run
  rw [finish, equal]
  rfl

/-- The command of an action runs the same job as the action itself. Whenever the arguments that
its rule denotes are accepted, the job differs from that of the action in no field but that a Java
job leaves its only target to the default, so it ends in the same way and does the same to every
world. -/
theorem run_arguments_eq_run_ofAction {schema : Schema} {root : Path} {plan : Plan}
    {action : Action} (toolchain : Toolchain) (rootPlain : isPlainPath root.text = true)
    (planned : schema.plan root = .ok plan) (member : action ∈ plan.actions)
    (command : isCommand toolchain.xsdc = true) :
    Ninja.Denotes toolchain action (Ninja.arguments toolchain action) ∧
    Ninja.arguments toolchain action = Ninja.plainArguments toolchain.xsdc action ∧
    ∀ job, parse (Ninja.arguments toolchain action) = .ok (.compile job) →
      job = { Job.ofAction action toolchain.xsdc with depfileTargets := namedTargets action } ∧
      job.targets = action.outputs ∧
      (action.language = .java → action.outputs = [action.output]) ∧
      ∀ programs world, (job.run programs).run.run world =
        ((Job.ofAction action toolchain.xsdc).run programs).run.run world := by
  have legible := Ninja.legible_of_plan rootPlain planned member
  have quotable : Ninja.IsQuotedWord toolchain.xsdc :=
    notMem_of_isQuotable (isQuotable_of_isCommand command) (by decide)
  have arguments := legible.arguments quotable
  refine ⟨Ninja.denotes_arguments toolchain action, arguments, fun job parsed => ?_⟩
  rw [arguments] at parsed
  have equal := job_of_plainArguments parsed
  have promised := Schema.outputs_ne_nil_of_plan planned member
  have ownTargets : (Job.ofAction action toolchain.xsdc).targets = action.outputs := by
    simp [Job.targets, Job.ofAction, promised]
  have targets : job.targets = action.outputs := by
    cases language : action.language with
    | java => simp [equal, Job.targets, Job.ofAction, namedTargets, language,
        Publication.path, (legible.java language).1]
    | cpp => simp [equal, Job.targets, Job.ofAction, namedTargets, language, promised]
  refine ⟨equal, targets, fun java => (legible.java java).1, fun programs world => ?_⟩
  have same : job.run programs = (Job.ofAction action toolchain.xsdc).run programs :=
    run_eq_of_targets (by rw [equal]) (targets.trans ownTargets.symm) programs
  rw [same]

def sample : Schema where
  name := "foo"
  source := "foo.xsd"
  includes := ["types.xsd"]
  package? := some "com.foo"
  flags := FlagSet.fill false
  rootElements := ["config"]
  name_isIdentifier := by decide +kernel
  source_isPlainPath := by decide +kernel
  includes_arePlainPaths := by decide +kernel
  package_isPackageName := by decide +kernel
  rootElements_areElementNames := by decide +kernel
  rootElements_nodup := by decide
  flags_compatible := rfl

def sampleToolchain : Toolchain := ⟨"xsdc", "xsd-config", none⟩

theorem sample_run_arguments_eq_run_ofAction :
    ∃ job, parse (Ninja.arguments sampleToolchain (sample.javaAction ⟨"gen"⟩ "com.foo")) =
        .ok (.compile job) ∧
      ∀ programs world, (job.run programs).run.run world =
        ((Job.ofAction (sample.javaAction ⟨"gen"⟩ "com.foo") "xsdc").run programs).run.run
          world := by
  obtain ⟨plan, planned⟩ : ∃ plan, sample.plan ⟨"gen"⟩ = .ok plan := ⟨_, rfl⟩
  obtain ⟨package, named, actions⟩ := Schema.actions_of_plan planned
  obtain rfl := Option.some.inj named
  obtain ⟨-, same, alike⟩ := run_arguments_eq_run_ofAction sampleToolchain (by decide +kernel)
    planned (actions ▸ List.mem_cons_self) (by decide +kernel)
  have accepted : parse (Ninja.plainArguments sampleToolchain.xsdc
      (sample.javaAction ⟨"gen"⟩ "com.foo")) =
        .ok (.compile { Job.ofAction (sample.javaAction ⟨"gen"⟩ "com.foo") "xsdc" with
          depfileTargets := [] }) := by
    decide +kernel
  rw [← same] at accepted
  exact ⟨_, accepted, (alike _ accepted).2.2.2⟩

end SchemaBuild.CommandLine
