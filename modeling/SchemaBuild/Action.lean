import SchemaBuild.Path
import SchemaBuild.Schema

/-!
# Build actions

Every schema module is compiled twice, into Java and into C++. An action is one such run of the
schema compiler. All of its paths follow from the generation root, the module's name and its
package name; nothing is run here.

Below `<root>/<name>/` a module generates an archive of Java sources, and a directory `cpp` with
a source and a header per stem. The stems are the package name with underscores for its dots,
unless only enumerations are asked for, and the same with `_enums` appended, unless only the
parser is asked for.
-/

namespace SchemaBuild

inductive Language where
  | java
  | cpp
  deriving DecidableEq, Repr

namespace Language

def name : Language → String
  | .java => "java"
  | .cpp => "cpp"

def rule : Language → String
  | .java => "xsdc_java"
  | .cpp => "xsdc_cpp"

/-- The switch that selects the language. Java is what the compiler generates without one. -/
def switch : Language → List String
  | .java => []
  | .cpp => ["-c"]

/-- The switches of the language in the order in which they are passed, and whether they are
set. Flags that do not apply to the language have none. -/
def switches (flags : Flags) : Language → List (Bool × String)
  | .java => [
      (flags.genWriter, "-w"),
      (flags.booleanGetter, "-b"),
      (flags.nullability, "-n"),
      (flags.genHas, "-g")]
  | .cpp => [
      (flags.genWriter, "-w"),
      (flags.enumsOnly, "-e"),
      (flags.parserOnly, "-x"),
      (flags.booleanGetter, "-b"),
      (flags.tinyxml, "-t")]

/-- The arguments after the positional ones: the language, the switches that are set, and each
root element after its own `-r`. -/
def compilerArgs (language : Language) (flags : Flags) (rootElements : List String) :
    List String :=
  language.switch ++
    (language.switches flags).filterMap (fun (set, switch) => if set then some switch else none) ++
    rootElements.flatMap fun element => ["-r", element]

end Language

def javaArchive : String := "xsdcgen.srcjar"

namespace Path

def staging (output : Path) : Path :=
  output.withSuffix ".temp"

def unfinished (output : Path) : Path :=
  output.withSuffix ".tmp"

def depfile (output : Path) : Path :=
  output.withSuffix ".d"

end Path

structure Artifacts where
  javaSources : List Path
  cppSources : List Path
  cppHeaders : List Path
  /-- The directories to search for the headers. -/
  headerDirs : List Path
  deriving DecidableEq, Repr

structure Action where
  language : Language
  description : String
  /-- The schema that is compiled. -/
  input : Path
  /-- What the compiler reads beside the schema. -/
  implicitInputs : List Path
  /-- Every file that the action promises. -/
  outputs : List Path
  /-- The archive or the directory that is published. -/
  output : Path
  staging : Path
  depfile : Path
  packageName : String
  args : List String
  deriving DecidableEq, Repr

structure Plan where
  artifacts : Artifacts
  actions : List Action
  deriving DecidableEq, Repr

namespace Schema

def stem (package : String) : String :=
  String.ofList (package.toList.map fun character => if character = '.' then '_' else character)

def stems (flags : Flags) (package : String) : List String :=
  (if flags.enumsOnly then [] else [stem package]) ++
    (if flags.parserOnly then [] else [stem package ++ "_enums"])

private def action (schema : Schema) (package : String) (language : Language)
    (description : String) (outputs : List Path) (output : Path) : Action where
  language := language
  description := description ++ schema.source ++ " => " ++ output.text
  input := ⟨schema.source⟩
  implicitInputs := schema.includes.map Path.mk
  outputs := outputs
  output := output
  staging := output.staging
  depfile := output.depfile
  packageName := package
  args := language.compilerArgs schema.flags schema.rootElements

/-- Plan the outputs of a module below a generation root. A module without a package name has no
plan, since the compiler needs one for both languages. -/
def plan (schema : Schema) (root : Path) : Except PropertyError Plan :=
  match schema.package? with
  | none => .error ⟨schema.name, .packageMissing⟩
  | some package =>
      let directory := root.join schema.name
      let archive := directory.join javaArchive
      let cpp := directory.join "cpp"
      let headers := cpp.join "include"
      let stems := stems schema.flags package
      let artifacts : Artifacts := {
        javaSources := [archive]
        cppSources := stems.map fun stem => cpp.join (stem ++ ".cpp")
        cppHeaders := stems.map fun stem => headers.join (stem ++ ".h")
        headerDirs := [headers] }
      .ok {
        artifacts := artifacts
        actions := [
          schema.action package .java "xsdc Java " [archive] archive,
          schema.action package .cpp "xsdc C++ " (artifacts.cppSources ++ artifacts.cppHeaders)
            cpp] }

end Schema

end SchemaBuild
