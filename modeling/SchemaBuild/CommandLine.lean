import SchemaBuild.CommandLine.Arguments
import SchemaBuild.Generate
import SchemaBuild.Job

/-!
# Command line

The tool `xsd-config` has two commands. `generate` reads a manifest and writes the build files of
its modules. `compile` runs one compiler job; it is what the build files invoke, and it reads no
manifest.
-/

namespace SchemaBuild.CommandLine

def toolName : String := "xsd-config"

def toolVersion : String := "0.1.0"

/-! ## Commands and their arguments -/

def toolRule : CommandRule where
  name := toolName
  options := [⟨"manifest", .single, false⟩]
  commands := ["generate", "compile", "help"]

def generateRule : CommandRule where
  name := "generate"
  options := [⟨"out-dir", .single, false⟩]

def compileRule : CommandRule where
  name := "compile"
  options := [
    ⟨"xsdc", .single, false⟩, ⟨"package", .single, false⟩, ⟨"archive", .switch, false⟩,
    ⟨"include", .many, false⟩, ⟨"xsdc-arg", .many, true⟩, ⟨"depfile", .single, false⟩,
    ⟨"depfile-target", .many, false⟩]
  positionals := ["SCHEMA", "OUTPUT"]

def defaultManifest : String := "./xsd-config.toml"

def defaultOutDir : String := "./out"

inductive Invocation where
  /-- Describe the use of a command, or of the tool if none is named. -/
  | help (command : Option String)
  | version (command : Option String)
  | generate (manifest outDir : Path)
  | compile (job : Job)
  deriving DecidableEq, Repr

def orStop (command : Option String) (result : Except Stop Invocation) : Except Stop Invocation :=
  match result with
  | .error .help => .ok (.help command)
  | .error .version => .ok (.version command)
  | other => other

def jobOf (given : Given) : Except Stop Job := do
  let output : Path := ⟨← Given.need "OUTPUT" given.positionals[1]?⟩
  return {
    xsdc := ← Given.need "--xsdc" (given.value? "xsdc")
    schema := ⟨← Given.need "SCHEMA" given.positionals[0]?⟩
    packageName := ← Given.need "--package" (given.value? "package")
    args := given.all "xsdc-arg"
    includes := (given.all "include").map Path.mk
    output := if given.has "archive" then .archive output else .directory output
    depfile := ⟨← Given.need "--depfile" (given.value? "depfile")⟩
    depfileTargets := (given.all "depfile-target").map Path.mk }

/-- Read the arguments of a command. The options before its name are settled after it, so help
and version come first. -/
def parseCommand (tool : Reading) (command : String) (arguments : List String) :
    Except Stop Invocation := do
  match command with
  | "help" =>
      match arguments with
      | [] => return .help none
      | [name] =>
          if toolRule.commands.contains name then return .help (some name)
          else throw (.unexpected name)
      | _ :: argument :: _ => throw (.unexpected argument)
  | "generate" => orStop (some command) do
      let given ← Reading.complete generateRule arguments
      let settled ← tool.settle
      return .generate ⟨(settled.given.value? "manifest").getD defaultManifest⟩
        ⟨(given.value? "out-dir").getD defaultOutDir⟩
  | _ => orStop (some command) do
      let job ← jobOf (← Reading.complete compileRule arguments)
      discard tool.settle
      return .compile job

def parse (arguments : List String) : Except Stop Invocation :=
  orStop none do
    match ← Reading.run toolRule {} arguments with
    | (tool, some (command, rest)) => parseCommand tool command rest
    | (tool, none) =>
        discard tool.settle
        throw (.missing "COMMAND")

/-! ## Texts -/

def fullName (separator : String) : Option String → String
  | none => toolName
  | some command => toolName ++ separator ++ command

def usage (command : Option String) : String :=
  "Usage: " ++ fullName " " command ++
    match command with
    | none => " [--manifest <PATH>] <COMMAND>"
    | some "generate" => " [--out-dir <DIR>]"
    | some "compile" =>
        " [--archive] [--include <FILE>]... [--xsdc-arg <ARG>]... [--depfile-target <PATH>]..." ++
          " --xsdc <CMD> --package <PKG> --depfile <PATH> <SCHEMA> <OUTPUT>"
    | some _ => " [COMMAND]"

def purpose : Option String → String
  | none => "Integrate XML-Schema modules into the build"
  | some "generate" => "Generate build files for all schema modules"
  | some "compile" => "Compile a schema and publish the generated sources"
  | some _ => "Print how a command is used"

namespace Stop

def message : Stop → String
  | .help => "help was asked for"
  | .version => "the version was asked for"
  | .unexpected argument => "unexpected argument '" ++ argument ++ "'"
  | .missingValue option => "a value is required for '--" ++ option ++ "'"
  | .needlessValue option => "no value is expected for '--" ++ option ++ "'"
  | .repeated option => "'--" ++ option ++ "' cannot be used more than once"
  | .missing what => "required but not given: " ++ what

end Stop

/-! ## Running -/

abbrev ExitCode := Nat

abbrev Session := StateM World

def printOut (line : String) : Session Unit :=
  modify fun world => { world with console := world.console.printOut line }

def printErr (line : String) : Session Unit :=
  modify fun world => { world with console := world.console.printErr line }

def summary (report : GenerateReport) : String :=
  toString report.files.planned ++ " schema modules, " ++
    toString report.files.documented ++ " docs modules, " ++
    toString report.files.targets ++ " targets, " ++
    toString report.updated.length ++ " files updated"

/-- Generate the build files of a manifest. Modules that are left out are told one by one. -/
def runGenerate (manifest outDir : Path) : Session ExitCode := do
  match Manifest.load (← get).files manifest with
  | .error error =>
      printErr ("Cannot parse schema manifest: " ++ error.message)
      return 1
  | .ok manifest =>
      let world ← get
      let (result, files) := (manifest.generate outDir).run.run world.files
      set { world with files := files }
      match result with
      | .error error =>
          printErr ("Cannot generate build files: " ++ error.message)
          return 1
      | .ok report =>
          for failure in report.files.failures do
            printErr ("Skipped module: " ++ failure.message)
          printOut (summary report)
          return if report.files.failures.isEmpty then 0 else 1

def runCompile (programs : Programs) (job : Job) : Session ExitCode := do
  match ← (job.run programs).run with
  | .ok () => return 0
  | .error error =>
      printErr ("Cannot compile " ++ Text.quoted job.schema.text ++ ": " ++ error.message)
      return 1

def run (programs : Programs) (arguments : List String) : Session ExitCode := do
  match parse arguments with
  | .error stop =>
      printErr ("error: " ++ stop.message ++ "\n\n" ++ usage none)
      return 2
  | .ok (.help command) =>
      printOut (purpose command ++ "\n\n" ++ usage command)
      return 0
  | .ok (.version command) =>
      printOut (fullName "-" command ++ " " ++ toolVersion)
      return 0
  | .ok (.generate manifest outDir) => runGenerate manifest outDir
  | .ok (.compile job) => runCompile programs job

end SchemaBuild.CommandLine
