import SchemaBuild.Action
import SchemaBuild.Json
import SchemaBuild.Registry

/-!
# The list of modules

All modules of a registry as JSON: schema modules with what they generate, and the documentation
modules derived from them.
-/

namespace SchemaBuild.ModuleList

def paths (paths : List Path) : Json :=
  .strings (paths.map Path.text)

def artifacts (artifacts : Artifacts) : Json :=
  .object [
    ("java_sources", paths artifacts.javaSources),
    ("cpp_sources", paths artifacts.cppSources),
    ("cpp_headers", paths artifacts.cppHeaders),
    ("header_dirs", paths artifacts.headerDirs)]

def action (action : Action) : Json :=
  .object [
    ("rule", .string action.language.name),
    ("description", .string action.description),
    ("input", .string action.input.text),
    ("implicit_inputs", paths action.implicitInputs),
    ("outputs", paths action.outputs),
    ("output", .string action.output.text),
    ("staging", .string action.staging.text),
    ("depfile", .string action.depfile.text),
    ("package_name", .string action.packageName),
    ("args", .strings action.args)]

/-- A schema module. One without a plan has no artifacts and no actions. -/
def schema (schema : Schema) (plan? : Option Plan) : Json :=
  .object ([
    ("type", .string "xsd_config"),
    ("name", .string schema.name),
    ("srcs", .strings [schema.source]),
    ("include_files", .strings schema.includes),
    ("package_name", schema.package?.elim .null .string)] ++
    (match plan? with
     | none => [("actions", .array [])]
     | some plan => [
         ("artifacts", artifacts plan.artifacts),
         ("actions", .array (plan.actions.map action))]))

def apiFiles (files : ApiFiles) : Json :=
  .object [("api_file", .string files.api), ("removed_api_file", .string files.removed)]

def docs (docs : DocsModule) : Json :=
  .object [
    ("type", .string "droidstubs"),
    ("name", .string docs.name),
    ("srcs", .strings docs.srcs),
    ("args", .string docs.args),
    ("api_filename", .string docs.apiFilename),
    ("removed_api_filename", .string docs.removedApiFilename),
    ("check_api", .object [
      ("current", apiFiles docs.current),
      ("last_released", apiFiles docs.lastReleased)]),
    ("installable", .bool docs.installable),
    ("no_framework_libs", .bool docs.noFrameworkLibs)]

def entry (plans : NameMap Plan) : Entry → Json
  | .schema module => schema module (plans.get? module.name)
  | .docs module => docs module

def render (registry : Registry) (plans : NameMap Plan) : String :=
  (Json.object [("modules", .array (registry.entries.map (entry plans)))]).render 0 ++ "\n"

end SchemaBuild.ModuleList
