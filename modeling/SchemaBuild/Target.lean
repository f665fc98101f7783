import SchemaBuild.Schema
import SchemaBuild.Starlark

/-!
# Declarative targets

Every schema module is described by three targets: a file group with the schema and what it
includes, a C++ library, and a Java library. All three follow from the checked module alone.
-/

namespace SchemaBuild

/-! ## Platforms -/

inductive Platform where
  | android
  deriving DecidableEq, Repr

namespace Platform

def name : Platform → String
  | .android => "android"

def configSetting (platform : Platform) : String :=
  "//build/bazel/platforms/os:" ++ platform.name

def defaultCondition : String := "//conditions:default"

end Platform

/-! ## Libraries and groups -/

open Starlark (Label Rule Value)

def libXsdcUtils : String := "libxsdc-utils"

def libXml2 : String := "libxml2"

def libTinyxml2 : String := "libtinyxml2"

def libStubAnnotations : String := "stub-annotations"

def libKxml2 : String := "kxml2-2.3.0"

/-- The kit that generated Java code is built with. The public ones hold annotations of their
own, which clash with the stub annotations. -/
def sdkVersion : String := "core_current"

structure FileGroup where
  name : String
  srcs : List Label
  deriving DecidableEq, Repr

structure CppLibrary where
  name : String
  src : Label
  includeFiles : List Label
  packageName : Option String
  flags : Flags
  rootElements : List String
  deps : List Label
  implementationDynamicDeps : List Label
  deriving DecidableEq, Repr

structure PlatformDeps where
  primary : List Label
  default : List Label
  deriving DecidableEq, Repr

structure JavaLibrary where
  name : String
  src : Label
  includeFiles : List Label
  packageName : Option String
  flags : Flags
  rootElements : List String
  deps : List Label
  platformDeps : PlatformDeps
  sdkVersion : String
  deriving DecidableEq, Repr

inductive Target where
  | fileGroup (target : FileGroup)
  | cppLibrary (target : CppLibrary)
  | javaLibrary (target : JavaLibrary)
  deriving DecidableEq, Repr

namespace Target

def cppName (module : String) : String :=
  module ++ "-cpp"

def javaName (module : String) : String :=
  module ++ "-java"

def namesOf (module : String) : List String :=
  [module, cppName module, javaName module]

def name : Target → String
  | .fileGroup target => target.name
  | .cppLibrary target => target.name
  | .javaLibrary target => target.name

def kind : Target → String
  | .fileGroup _ => "filegroup"
  | .cppLibrary _ => "cc_xsd_config_library"
  | .javaLibrary _ => "java_xsd_config_library"

def load : Target → Option String
  | .fileGroup _ => none
  | .cppLibrary _ => some "//build/bazel/rules/cc:cc_xsd_config_library.bzl"
  | .javaLibrary _ => some "//build/bazel/rules/java:java_xsd_config_library.bzl"

/-- The attributes of the target, also those that say nothing. -/
def attributes : Target → List (String × Value)
  | .fileGroup target => [("srcs", .labels target.srcs)]
  | .cppLibrary target => [
      ("src", .label target.src),
      ("include_files", .labels target.includeFiles),
      ("package_name", .string (target.packageName.getD "")),
      ("gen_writer", .bool target.flags.genWriter),
      ("enums_only", .bool target.flags.enumsOnly),
      ("parser_only", .bool target.flags.parserOnly),
      ("boolean_getter", .bool target.flags.booleanGetter),
      ("tinyxml", .bool target.flags.tinyxml),
      ("root_elements", .strings target.rootElements),
      ("deps", .labels target.deps),
      ("implementation_dynamic_deps", .labels target.implementationDynamicDeps)]
  | .javaLibrary target => [
      ("src", .label target.src),
      ("include_files", .labels target.includeFiles),
      ("package_name", .string (target.packageName.getD "")),
      ("nullability", .bool target.flags.nullability),
      ("gen_has", .bool target.flags.genHas),
      ("gen_writer", .bool target.flags.genWriter),
      ("boolean_getter", .bool target.flags.booleanGetter),
      ("root_elements", .strings target.rootElements),
      ("deps", .select target.deps [
        (Platform.android.configSetting, target.platformDeps.primary),
        (Platform.defaultCondition, target.platformDeps.default)]),
      ("sdk_version", .string target.sdkVersion)]

def toRule (target : Target) : Rule :=
  target.attributes.foldl (fun rule (name, value) => rule.add name value)
    { kind := target.kind, load := target.load, name := target.name }

end Target

namespace Schema

def fileGroup (schema : Schema) : FileGroup where
  name := schema.name
  srcs := schema.files.map Label.file

/-- The C++ library of a module. It has one XML parser or the other. -/
def cppLibrary (schema : Schema) : CppLibrary where
  name := Target.cppName schema.name
  src := .file schema.source
  includeFiles := schema.includes.map Label.file
  packageName := schema.package?
  flags := schema.flags
  rootElements := schema.rootElements
  deps := [.target libXsdcUtils]
  implementationDynamicDeps := [.target (if schema.flags.tinyxml then libTinyxml2 else libXml2)]

/-- The Java library of a module. Whether its code refers to the annotations depends on the
schema's content, so it always depends on them. Android brings an XML parser of its own. -/
def javaLibrary (schema : Schema) : JavaLibrary where
  name := Target.javaName schema.name
  src := .file schema.source
  includeFiles := schema.includes.map Label.file
  packageName := schema.package?
  flags := schema.flags
  rootElements := schema.rootElements
  deps := [.target libStubAnnotations]
  platformDeps := ⟨[], [.target libKxml2]⟩
  sdkVersion := SchemaBuild.sdkVersion

def targets (schema : Schema) : List Target :=
  [.fileGroup schema.fileGroup, .cppLibrary schema.cppLibrary, .javaLibrary schema.javaLibrary]

def rules (schema : Schema) : List Rule :=
  schema.targets.map Target.toRule

end Schema

end SchemaBuild
