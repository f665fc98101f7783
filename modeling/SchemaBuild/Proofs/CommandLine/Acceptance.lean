import SchemaBuild.Proofs.CommandLine
import SchemaBuild.Proofs.Ninja.Lines

/-!
# Commands that are accepted

The rule of an action passes paths, a package name and the compiler's command on as arguments of
their own. None of the rules by which these are accepted in a manifest knows about options, so a
text that looks like one gets as far as the command, which is refused then.
-/

namespace SchemaBuild.CommandLine

theorem looksLikeOption_of_head? {text : String} (other : text.toList.head? ≠ some '-') :
    looksLikeOption text = false := by
  unfold looksLikeOption
  split
  next spelled => simp [spelled] at other
  next => rfl

theorem head?_of_looksLikeOption {text : String} (noOption : looksLikeOption text = false)
    {character : Char} (member : character ∈ text.toList) (notDash : character ≠ '-') :
    text.toList.head? ≠ some '-' := by
  unfold looksLikeOption at noOption
  split at noOption
  · cases noOption
  next short =>
    intro dash
    obtain ⟨rest, spelled⟩ := List.head?_eq_some_iff.1 dash
    cases rest with
    | nil => exact notDash (by simpa [spelled] using member)
    | cons next rest => exact short next rest spelled

theorem looksLikeOption_of_isPackageName {package : String} (named : isPackageName package = true) :
    looksLikeOption package = false := by
  refine looksLikeOption_of_head? fun dash => ?_
  rcases isPackageName_cases named (List.mem_of_mem_head? dash) with dot | accepted
  · exact absurd dot (by decide)
  · exact absurd accepted (by decide +kernel)

section

variable {schema : Schema} {root : Path} {plan : Plan} {action : Action}
  (planned : schema.plan root = .ok plan) (member : action ∈ plan.actions)
include planned member

theorem slash_mem_output : '/' ∈ action.output.text.toList := by
  obtain ⟨package, -, isAction⟩ := Schema.action_of_plan planned member
  obtain ⟨child, text, -, -⟩ := Schema.output_text isAction
  simp [text]

/-- The words of a command, as far as they may look like options: the paths below the root do so if
the root starts with a dash. -/
theorem ownWords_iff (xsdc : String) (nonempty : root.text.toList ≠ []) :
    (∀ word ∈ ownWords xsdc action, looksLikeOption word = false) ↔
      looksLikeOption xsdc = false ∧ root.text.toList.head? ≠ some '-' ∧
      looksLikeOption action.input.text = false ∧
      ∀ path ∈ action.implicitInputs, looksLikeOption path.text = false := by
  have extended := Schema.extendsRoot_of_plan planned member
  have package : looksLikeOption action.packageName = false := by
    obtain ⟨package, named, rfl | rfl⟩ := Schema.action_of_plan planned member
    all_goals exact looksLikeOption_of_isPackageName (schema.package_isPackageName package named)
  have below {path : Path} (extends_ : path.Extends root)
      (noDash : root.text.toList.head? ≠ some '-') : looksLikeOption path.text = false :=
    looksLikeOption_of_head? (extends_.head?_eq nonempty ▸ noDash)
  have targets (path : Path) (isTarget : path ∈ namedTargets action) : path ∈ action.outputs := by
    unfold namedTargets at isTarget
    split at isTarget
    · cases isTarget
    · exact isTarget
  simp only [ownWords, List.forall_mem_append, List.forall_mem_cons, List.forall_mem_map,
    List.not_mem_nil, false_implies, implies_true, and_true]
  constructor
  · rintro ⟨⟨⟨⟨isCommand, -, -⟩, includes⟩, -⟩, input, output⟩
    have noDash := head?_of_looksLikeOption output (slash_mem_output planned member) (by decide)
    rw [extended.output.head?_eq nonempty] at noDash
    exact ⟨isCommand, noDash, input, includes⟩
  · rintro ⟨isCommand, noDash, input, includes⟩
    exact ⟨⟨⟨⟨isCommand, package, below extended.depfile noDash⟩, includes⟩,
      fun path isTarget => below (extended.outputs path (targets path isTarget)) noDash⟩, input,
      below extended.output noDash⟩

end

section

variable {manifest : Manifest} {outDir : Path} (accepted : manifest.validate = .ok manifest)
  (plain : isPlainPath (manifest.genRoot outDir).text = true) {action : Action}
  (member : action ∈ (Selection.ofManifest manifest (manifest.genRoot outDir)).actions)
include accepted plain member

theorem arguments_of_mem_actions :
    Ninja.arguments manifest.toolchain action =
      Ninja.plainArguments manifest.toolchain.xsdc action := by
  obtain ⟨schema, -, plan, planned, inPlan⟩ :=
    (Selection.mem_actions (Selection.plansModules_ofManifest manifest _)).1 member
  have quotable : Ninja.IsQuotedWord manifest.toolchain.xsdc :=
    notMem_of_isQuotable
      (isQuotable_of_isCommand (Manifest.isAccepted_toolchain accepted).xsdc) (by decide)
  exact (Ninja.legible_of_plan plain planned inPlan).arguments quotable

/-- The command that the rule of an action runs is accepted exactly if neither the compiler's
command nor a schema file looks like an option, and the generation root does not start with a
dash. -/
theorem parse_arguments_iff :
    Ninja.Denotes manifest.toolchain action (Ninja.arguments manifest.toolchain action) ∧
    ((∃ job, parse (Ninja.arguments manifest.toolchain action) = .ok (.compile job)) ↔
      looksLikeOption manifest.toolchain.xsdc = false ∧
      (manifest.genRoot outDir).text.toList.head? ≠ some '-' ∧
      looksLikeOption action.input.text = false ∧
      ∀ path ∈ action.implicitInputs, looksLikeOption path.text = false) := by
  obtain ⟨schema, -, plan, planned, inPlan⟩ :=
    (Selection.mem_actions (Selection.plansModules_ofManifest manifest _)).1 member
  refine ⟨Ninja.denotes_arguments manifest.toolchain action, ?_⟩
  rw [arguments_of_mem_actions accepted plain member,
    ← ownWords_iff planned inPlan _ (isPlainPath_iff.1 plain).1]
  constructor
  · rintro ⟨job, parsed⟩
    exact (parse_plainArguments_iff.1 parsed).1
  · exact fun noOptions => ⟨_, parse_plainArguments_iff.2 ⟨noOptions, rfl⟩⟩

end

def declaring (source : String) : Manifest where
  version := 1
  toolchainKeys := none
  declarations := [{ name := "foo", srcs := [source], packageName := some "com.foo" }]

theorem parse_arguments_dash :
    (declaring "-").validate = .ok (declaring "-") ∧
    (Selection.ofManifest (declaring "-") ((declaring "-").genRoot ⟨"out"⟩)).actions.length = 2 ∧
    ∀ action ∈ (Selection.ofManifest (declaring "-") ((declaring "-").genRoot ⟨"out"⟩)).actions,
      ∃ job, parse (Ninja.arguments (declaring "-").toolchain action) = .ok (.compile job) := by
  have accepted : (declaring "-").validate = .ok (declaring "-") := by decide +kernel
  have plain : isPlainPath ((declaring "-").genRoot ⟨"out"⟩).text = true := by decide +kernel
  have two : (Selection.ofManifest (declaring "-")
      ((declaring "-").genRoot ⟨"out"⟩)).actions.length = 2 := by
    decide +kernel
  have fair : ∀ action ∈
      (Selection.ofManifest (declaring "-") ((declaring "-").genRoot ⟨"out"⟩)).actions,
      looksLikeOption action.input.text = false ∧
      ∀ path ∈ action.implicitInputs, looksLikeOption path.text = false := by
    decide +kernel
  have noOptions : looksLikeOption (declaring "-").toolchain.xsdc = false ∧
      ((declaring "-").genRoot ⟨"out"⟩).text.toList.head? ≠ some '-' := by
    decide +kernel
  exact ⟨accepted, two, fun action member =>
    (parse_arguments_iff accepted plain member).2.2
      ⟨noOptions.1, noOptions.2, fair action member⟩⟩

/-- A schema whose name starts with a dash is accepted, but its commands are not. -/
theorem parse_arguments_dashed :
    (declaring "-a.xsd").validate = .ok (declaring "-a.xsd") ∧
    (Selection.ofManifest (declaring "-a.xsd")
      ((declaring "-a.xsd").genRoot ⟨"out"⟩)).actions.length = 2 ∧
    ∀ action ∈ (Selection.ofManifest (declaring "-a.xsd")
        ((declaring "-a.xsd").genRoot ⟨"out"⟩)).actions,
      parse (Ninja.arguments (declaring "-a.xsd").toolchain action) =
        .error (.unexpected "-a.xsd") := by
  have accepted : (declaring "-a.xsd").validate = .ok (declaring "-a.xsd") := by decide +kernel
  have plain : isPlainPath ((declaring "-a.xsd").genRoot ⟨"out"⟩).text = true := by
    decide +kernel
  have two : (Selection.ofManifest (declaring "-a.xsd")
      ((declaring "-a.xsd").genRoot ⟨"out"⟩)).actions.length = 2 := by
    decide +kernel
  have refused : ∀ action ∈ (Selection.ofManifest (declaring "-a.xsd")
        ((declaring "-a.xsd").genRoot ⟨"out"⟩)).actions,
      parse (Ninja.plainArguments (declaring "-a.xsd").toolchain.xsdc action) =
        .error (.unexpected "-a.xsd") := by
    decide +kernel
  refine ⟨accepted, two, fun action member => ?_⟩
  rw [arguments_of_mem_actions accepted plain member]
  exact refused action member

end SchemaBuild.CommandLine
