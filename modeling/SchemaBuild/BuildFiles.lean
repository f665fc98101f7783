import SchemaBuild.ModuleList
import SchemaBuild.Ninja
import SchemaBuild.Target

/-!
# Build files

The three files that are generated from a manifest, as text. Modules are taken in the order of
the manifest. A declaration that breaks a rule, or whose names are taken, is left out of all
files; a module that has no plan, because it has no package name, is left out of the build
statements alone. Every such case is reported.
-/

namespace SchemaBuild

inductive ModuleError where
  | property (error : PropertyError)
  | registry (error : RegistryError)
  deriving DecidableEq, Repr

namespace ModuleError

def message : ModuleError → String
  | .property error => error.message
  | .registry error => error.message

end ModuleError

structure Selection where
  registry : Registry := .empty
  plans : NameMap Plan := .empty
  /-- The modules in the order in which they were taken. -/
  schemas : List Schema := []
  /-- The names of declarative targets, and the modules that declare them. -/
  owners : NameMap String := .empty
  failures : List ModuleError := []

namespace Selection

def taken? (selection : Selection) (schema : Schema) : Option (String × String) :=
  (Target.namesOf schema.name).findSome? fun target =>
    (selection.owners.get? target).map fun owner => (target, owner)

def fail (selection : Selection) (error : ModuleError) : Selection :=
  { selection with failures := selection.failures ++ [error] }

/-- Take a module whose names are free: reserve them, and plan its outputs. -/
def accept (selection : Selection) (root : Path) (schema : Schema) (registry : Registry) :
    Selection :=
  let taken := {
    selection with
    registry := registry
    schemas := selection.schemas ++ [schema]
    owners := (Target.namesOf schema.name).foldl
      (fun owners target => owners.insert target schema.name) selection.owners }
  match schema.plan root with
  | .ok plan => { taken with plans := taken.plans.insert schema.name plan }
  | .error error => taken.fail (.property error)

/-- Take a checked module, unless a name of it is taken. A module of the same name is a
duplicate; any other clash is one of targets. -/
def add (root : Path) (selection : Selection) (schema : Schema) : Selection :=
  match (selection.taken? schema).filter fun taken => taken.2 ≠ schema.name with
  | some (target, owner) =>
      selection.fail (.registry (.targetConflict schema.name target owner))
  | none =>
      match selection.registry.register schema with
      | .error error => selection.fail (.registry error)
      | .ok registry => selection.accept root schema registry

def declare (root : Path) (selection : Selection) (declaration : Declaration) : Selection :=
  match declaration.check with
  | .error error => selection.fail (.property error)
  | .ok schema => selection.add root schema

def ofManifest (manifest : Manifest) (root : Path) : Selection :=
  manifest.declarations.foldl (declare root) {}

end Selection

structure BuildFiles where
  ninja : String
  modules : String
  bazel : String
  /-- How many schema modules have build actions. -/
  planned : Nat
  /-- How many documentation modules there are. -/
  documented : Nat
  /-- How many declarative targets there are. -/
  targets : Nat
  failures : List ModuleError

namespace BuildFiles

def ninjaName : String := "build.ninja"

def modulesName : String := "modules.json"

def bazelName : String := "BUILD.bazel"

/-- The build files of a manifest, for a directory of generated files. Conflicts of documentation
modules are reported after everything else. -/
def ofManifest (manifest : Manifest) (root : Path) : BuildFiles :=
  let selection := Selection.ofManifest manifest root
  let derivation := selection.registry.deriveDocs
  let rules := selection.schemas.flatMap Schema.rules
  {
    ninja := Ninja.render manifest.toolchain (selection.plans.values.flatMap Plan.actions)
    modules := ModuleList.render derivation.registry selection.plans
    bazel := Starlark.renderFile rules
    planned := selection.plans.size
    documented := derivation.registry.docs.length
    targets := rules.length
    failures := selection.failures ++ derivation.errors.map ModuleError.registry }

def toList (files : BuildFiles) : List (String × String) :=
  [(ninjaName, files.ninja), (modulesName, files.modules), (bazelName, files.bazel)]

end BuildFiles

end SchemaBuild
