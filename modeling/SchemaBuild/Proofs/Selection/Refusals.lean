import SchemaBuild.Generate
import SchemaBuild.Proofs.Selection

/-!
# Declarations that are refused

A declaration is refused for a fault of its own, as a duplicate, or for a target that another
module has. Nothing but the report of it is kept, so the same files are generated from a manifest
that does not have it.
-/

namespace SchemaBuild

namespace Selection

/-- The errors for which a declaration is left out of all files. -/
inductive Refuses (declaration : Declaration) : ModuleError → Prop
  | malformed {error : PropertyError} (checked : declaration.check = .error error) :
      Refuses declaration (.property error)
  | duplicate {schema : Schema} (checked : declaration.check = .ok schema) :
      Refuses declaration (.registry (.duplicate schema.name))
  | conflict {schema : Schema} (checked : declaration.check = .ok schema) (target owner : String) :
      Refuses declaration (.registry (.targetConflict schema.name target owner))

/-- What becomes of a declaration: whether its module is taken, and what is reported of it. -/
structure Verdict where
  declaration : Declaration
  taken : Bool
  errors : List ModuleError

/-- The verdict on a declaration is read off what the selection has more after it. -/
def verdict (root : Path) (selection : Selection) (declaration : Declaration) : Verdict where
  declaration := declaration
  taken := decide
    (selection.schemas.length < (selection.declare root declaration).schemas.length)
  errors := (selection.declare root declaration).failures.drop selection.failures.length

def verdicts (root : Path) (selection : Selection) : List Declaration → List Verdict
  | [] => []
  | declaration :: rest =>
      selection.verdict root declaration ::
        verdicts root (selection.declare root declaration) rest

theorem map_declaration_verdicts (root : Path) (selection : Selection)
    (declarations : List Declaration) :
    (selection.verdicts root declarations).map Verdict.declaration = declarations := by
  induction declarations generalizing selection with
  | nil => rfl
  | cons declaration rest induction =>
      rw [verdicts, List.map_cons, induction]
      rfl

/-! ## One declaration -/

def reporting (selection : Selection) (failures : List ModuleError) : Selection :=
  { selection with failures := failures }

variable {root : Path} {selection : Selection} {declaration : Declaration}

theorem fail_reporting (failures : List ModuleError) (error : ModuleError) :
    (selection.reporting failures).fail error = selection.reporting (failures ++ [error]) :=
  rfl

theorem taken?_reporting (failures : List ModuleError) (schema : Schema) :
    (selection.reporting failures).taken? schema = selection.taken? schema :=
  rfl

theorem registry_reporting (failures : List ModuleError) :
    (selection.reporting failures).registry = selection.registry :=
  rfl

theorem accept_reporting (schema : Schema) (registry : Registry) (failures : List ModuleError) :
    (selection.reporting failures).accept root schema registry =
      (selection.accept root schema registry).reporting
        (failures ++ planFailures root schema) := by
  unfold accept planFailures
  cases schema.plan root <;> simp [fail, reporting]

theorem declare_cases (root : Path) (selection : Selection) (declaration : Declaration) :
    (∃ error, Refuses declaration error ∧ ∀ failures,
      (selection.reporting failures).declare root declaration =
        selection.reporting (failures ++ [error])) ∨
    ∃ schema registry, declaration.check = .ok schema ∧ ∀ failures,
      (selection.reporting failures).declare root declaration =
        (selection.accept root schema registry).reporting
          (failures ++ planFailures root schema) := by
  -- Each decision is made before the failures are introduced: none of them looks there.
  cases checked : declaration.check with
  | error error =>
      left
      refine ⟨_, .malformed checked, ?_⟩
      intro failures
      simp only [declare, checked, fail_reporting]
  | ok schema =>
      cases clash : (selection.taken? schema).filter fun taken => taken.2 ≠ schema.name with
      | some pair =>
          left
          refine ⟨_, .conflict checked pair.1 pair.2, ?_⟩
          intro failures
          simp only [declare, checked, add, taken?_reporting, clash, fail_reporting]
      | none =>
          cases registered : selection.registry.register schema with
          | error error =>
              left
              have isDuplicate : error = .duplicate schema.name := by
                unfold Registry.register at registered
                split at registered <;> cases registered
                rfl
              refine ⟨_, .duplicate checked, ?_⟩
              intro failures
              simp only [declare, checked, add, taken?_reporting, clash, registry_reporting,
                registered, fail_reporting, isDuplicate]
          | ok registry =>
              right
              refine ⟨schema, registry, rfl, ?_⟩
              intro failures
              simp only [declare, checked, add, taken?_reporting, clash, registry_reporting,
                registered, accept_reporting]

theorem verdict_cases (root : Path) (selection : Selection) (declaration : Declaration) :
    (∃ error, Refuses declaration error ∧
      selection.verdict root declaration = ⟨declaration, false, [error]⟩ ∧
      ∀ failures, (selection.reporting failures).declare root declaration =
        selection.reporting (failures ++ [error])) ∨
    ∃ schema registry, declaration.check = .ok schema ∧
      selection.verdict root declaration = ⟨declaration, true, planFailures root schema⟩ ∧
      ∀ failures, (selection.reporting failures).declare root declaration =
        (selection.accept root schema registry).reporting
          (failures ++ planFailures root schema) := by
  rcases declare_cases root selection declaration with
    ⟨error, refuses, declared⟩ | ⟨schema, registry, checked, declared⟩
  · left
    refine ⟨error, refuses, ?_, declared⟩
    have here : selection.declare root declaration = _ := declared selection.failures
    simp [verdict, here, reporting]
  · right
    refine ⟨schema, registry, checked, ?_, declared⟩
    have here : selection.declare root declaration = _ := declared selection.failures
    simp [verdict, here, reporting]

theorem declare_reporting (root : Path) (selection : Selection) (declaration : Declaration)
    (failures : List ModuleError) :
    (selection.reporting failures).declare root declaration =
      (selection.declare root declaration).reporting
        (failures ++ (selection.verdict root declaration).errors) := by
  rcases verdict_cases root selection declaration with
    ⟨error, -, isVerdict, declared⟩ | ⟨schema, registry, -, isVerdict, declared⟩
  all_goals
    have here : selection.declare root declaration = _ := declared selection.failures
    rw [declared, here, isVerdict]
    rfl

theorem failures_declare :
    (selection.declare root declaration).failures =
      selection.failures ++ (selection.verdict root declaration).errors :=
  congrArg failures (declare_reporting root selection declaration selection.failures)

/-- Nothing of a refused declaration is kept but its errors. -/
theorem declare_of_refused (refused : (selection.verdict root declaration).taken = false)
    (failures : List ModuleError) :
    (selection.declare root declaration).reporting failures = selection.reporting failures := by
  rcases verdict_cases root selection declaration with
    ⟨error, -, -, declared⟩ | ⟨schema, registry, -, isVerdict, -⟩
  · have here : selection.declare root declaration = _ := declared selection.failures
    rw [here]
    rfl
  · rw [isVerdict] at refused
    cases refused

/-! ## All declarations -/

theorem failures_foldl (root : Path) (selection : Selection) (declarations : List Declaration) :
    (declarations.foldl (declare root) selection).failures =
      selection.failures ++ (selection.verdicts root declarations).flatMap Verdict.errors := by
  induction declarations generalizing selection with
  | nil => simp [verdicts]
  | cons declaration rest induction =>
      rw [List.foldl_cons, induction, failures_declare, verdicts, List.flatMap_cons,
        List.append_assoc]

/-- Without the declarations that are refused, the others are taken just as they were, and only
their own errors are reported. -/
theorem foldl_taken (root : Path) (selection : Selection) (declarations : List Declaration)
    (failures : List ModuleError) :
    (((selection.verdicts root declarations).filter Verdict.taken).map
        Verdict.declaration).foldl (declare root) (selection.reporting failures) =
      (declarations.foldl (declare root) selection).reporting (failures ++
        ((selection.verdicts root declarations).filter Verdict.taken).flatMap
          Verdict.errors) := by
  induction declarations generalizing selection failures with
  | nil => simp [verdicts]
  | cons declaration rest induction =>
      rw [verdicts, List.foldl_cons]
      cases taken : (selection.verdict root declaration).taken with
      | true =>
          rw [List.filter_cons_of_pos taken, List.map_cons, List.foldl_cons, List.flatMap_cons,
            ← List.append_assoc, ← induction, ← declare_reporting]
          rfl
      | false =>
          have dropped : ¬(selection.verdict root declaration).taken = true := by simp [taken]
          rw [List.filter_cons_of_neg dropped, ← induction, declare_of_refused taken]

theorem verdict_of_mem {verdict : Verdict} {declarations : List Declaration}
    (member : verdict ∈ selection.verdicts root declarations) :
    (verdict.taken = false ∧ ∃ error, verdict.errors = [error] ∧
      Refuses verdict.declaration error) ∨
    verdict.taken = true ∧ ∃ schema, verdict.declaration.check = .ok schema ∧
      verdict.errors = planFailures root schema := by
  induction declarations generalizing selection with
  | nil => cases member
  | cons declaration rest induction =>
      rcases List.mem_cons.1 member with rfl | inRest
      · rcases verdict_cases root selection declaration with
          ⟨error, refuses, isVerdict, -⟩ | ⟨schema, registry, checked, isVerdict, -⟩
        · rw [isVerdict]
          exact .inl ⟨rfl, error, rfl, refuses⟩
        · rw [isVerdict]
          exact .inr ⟨rfl, schema, checked, rfl⟩
      · exact induction inRest

end Selection

/-! ## Manifests without refused declarations -/

namespace Manifest

def verdicts (manifest : Manifest) (root : Path) : List Selection.Verdict :=
  Selection.verdicts root {} manifest.declarations

/-- The manifest that declares the modules that are taken, and no others. -/
def withoutRefused (manifest : Manifest) (root : Path) : Manifest :=
  { manifest with
    declarations := ((manifest.verdicts root).filter Selection.Verdict.taken).map
      Selection.Verdict.declaration }

def takenErrors (manifest : Manifest) (root : Path) : List ModuleError :=
  ((manifest.verdicts root).filter Selection.Verdict.taken).flatMap Selection.Verdict.errors

theorem ofManifest_withoutRefused (manifest : Manifest) (root : Path) :
    Selection.ofManifest (manifest.withoutRefused root) root =
      (Selection.ofManifest manifest root).reporting (manifest.takenErrors root) :=
  Selection.foldl_taken root {} manifest.declarations []

def conflicts (manifest : Manifest) (root : Path) : List ModuleError :=
  (Selection.ofManifest manifest root).registry.deriveDocs.errors.map ModuleError.registry

end Manifest

def BuildFiles.reporting (files : BuildFiles) (failures : List ModuleError) : BuildFiles :=
  { files with failures := failures }

def GenerateReport.reporting (report : GenerateReport) (failures : List ModuleError) :
    GenerateReport :=
  { report with files := report.files.reporting failures }

namespace Manifest

theorem buildFiles_withoutRefused (manifest : Manifest) (root : Path) :
    BuildFiles.ofManifest (manifest.withoutRefused root) root =
      (BuildFiles.ofManifest manifest root).reporting
        (manifest.takenErrors root ++ manifest.conflicts root) := by
  have sameToolchain : (manifest.withoutRefused root).toolchain = manifest.toolchain := rfl
  simp only [BuildFiles.ofManifest, ofManifest_withoutRefused, sameToolchain,
    Selection.reporting, BuildFiles.reporting, conflicts]

theorem generate_of_reporting {manifest other : Manifest} {outDir : Path}
    {failures : List ModuleError} (sameRoot : other.genRoot outDir = manifest.genRoot outDir)
    (files : BuildFiles.ofManifest other (manifest.genRoot outDir) =
      (BuildFiles.ofManifest manifest (manifest.genRoot outDir)).reporting failures) :
    other.generate outDir =
      (GenerateReport.reporting · failures) <$> manifest.generate outDir := by
  simp only [generate, sameRoot, files]
  generalize BuildFiles.ofManifest manifest (manifest.genRoot outDir) = built
  have sameTexts : (built.reporting failures).toList = built.toList := rfl
  split
  · rfl
  · simp only [sameTexts, map_bind, map_pure]
    rfl

end Manifest

/-- Declarations that are refused leave no trace but their own errors: without them the same files
are generated, to the same effect on every file system, and the failures are those that were
reported of the other declarations and of documentation modules. -/
theorem refused_leave_no_trace (manifest : Manifest) (root : Path) :
    let verdicts := manifest.verdicts root
    let kept := manifest.withoutRefused root
    let files := BuildFiles.ofManifest manifest root
    let failures := manifest.takenErrors root ++ manifest.conflicts root
    verdicts.map Selection.Verdict.declaration = manifest.declarations ∧
    (∀ verdict ∈ verdicts,
      (verdict.taken = false ∧ ∃ error, verdict.errors = [error] ∧
        Selection.Refuses verdict.declaration error) ∨
      verdict.taken = true ∧ ∃ schema, verdict.declaration.check = .ok schema ∧
        verdict.errors = Selection.planFailures root schema) ∧
    files.failures =
      verdicts.flatMap Selection.Verdict.errors ++ manifest.conflicts root ∧
    BuildFiles.ofManifest kept root = files.reporting failures ∧
    ∀ outDir, manifest.genRoot outDir = root →
      kept.generate outDir =
        (GenerateReport.reporting · failures) <$> manifest.generate outDir := by
  intro verdicts kept files failures
  refine ⟨Selection.map_declaration_verdicts root {} manifest.declarations, ?_, ?_,
    manifest.buildFiles_withoutRefused root, ?_⟩
  · intro verdict member
    exact Selection.verdict_of_mem member
  · have reported := Selection.failures_foldl root {} manifest.declarations
    rw [List.nil_append] at reported
    exact congrArg (· ++ manifest.conflicts root) reported
  · rintro outDir rfl
    exact Manifest.generate_of_reporting rfl (manifest.buildFiles_withoutRefused _)

example :
    (Selection.overlapping.withoutRefused ⟨"gen"⟩).declarations.map Declaration.srcs =
      [["foo.xsd"]] := by
  decide +kernel

end SchemaBuild
