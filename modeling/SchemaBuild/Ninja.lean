import SchemaBuild.Action
import SchemaBuild.Manifest

/-!
# Ninja files

The build statements of actions. The rules run this program's `compile` operation, which takes
the compiler's command and arguments as words of a shell command. A file is made line by line.
-/

namespace SchemaBuild.Ninja

/-- A value on the right of a binding, where a dollar is doubled. -/
def value (text : String) : String :=
  String.ofList (text.toList.flatMap fun character =>
    if character = '$' then ['$', '$'] else [character])

/-- A path on a build line, where a colon would end the outputs. Paths are known to have neither
blanks nor dollars. -/
def path (path : Path) : String :=
  String.ofList (path.text.toList.flatMap fun character =>
    if character = ':' then ['$', ':'] else [character])

/-- A word for the shell. Words are known to have no single quote. -/
def shellWord (text : String) : String :=
  "'" ++ value text ++ "'"

def header (toolchain : Toolchain) : List String := [
  "# Generated by xsd-config",
  "ninja_required_version = 1.10",
  "",
  "xsdc = " ++ value toolchain.xsdc,
  "xsd_config = " ++ value toolchain.driver,
  "",
  "rule xsdc_java",
  "  command = $\x7bxsd_config\x7d compile --xsdc '$\x7bxsdc\x7d' --package $\x7bpkg_name\x7d" ++
    " --archive --depfile $\x7bout\x7d.d $\x7bcompile_args\x7d $\x7bin\x7d $\x7bout\x7d",
  "  depfile = $\x7bout\x7d.d",
  "  deps = gcc",
  "  description = xsdc Java $\x7bin\x7d => $\x7bout\x7d",
  "",
  "rule xsdc_cpp",
  "  command = $\x7bxsd_config\x7d compile --xsdc '$\x7bxsdc\x7d' --package $\x7bpkg_name\x7d" ++
    " --depfile $\x7bcpp_depfile\x7d $\x7bcompile_args\x7d $\x7bin\x7d $\x7bout_dir\x7d",
  "  depfile = $\x7bcpp_depfile\x7d",
  "  deps = gcc",
  "  description = xsdc C++ $\x7bin\x7d => $\x7bout_dir\x7d"]

def buildLine (action : Action) : String :=
  "build " ++ " ".intercalate (action.outputs.map path) ++ ": " ++ action.language.rule ++ " " ++
    path action.input ++
    (if action.implicitInputs.isEmpty then ""
     else " |" ++ String.join (action.implicitInputs.map fun input => " " ++ path input))

/-- The shell words that an action passes on: the included files, the compiler's arguments and,
for C++, the outputs that the dependency file names. -/
def compileArgs (action : Action) : List String :=
  action.implicitInputs.flatMap (fun input => ["--include", shellWord input.text]) ++
    action.args.map (fun argument => shellWord ("--xsdc-arg=" ++ argument)) ++
    match action.language with
    | .java => []
    | .cpp => action.outputs.flatMap fun output => ["--depfile-target", shellWord output.text]

/-- The lines of one build statement, after an empty line. -/
def statement (action : Action) : List String :=
  ["", buildLine action, "  pkg_name = " ++ value action.packageName] ++
    (match action.language with
     | .java => []
     | .cpp => [
         "  out_dir = " ++ value action.output.text,
         "  cpp_depfile = " ++ value action.depfile.text]) ++
    ["  compile_args = " ++ " ".intercalate (compileArgs action)]

def lines (toolchain : Toolchain) (actions : List Action) : List String :=
  header toolchain ++ actions.flatMap statement

def render (toolchain : Toolchain) (actions : List Action) : String :=
  String.join ((lines toolchain actions).map (· ++ "\n"))

end SchemaBuild.Ninja
