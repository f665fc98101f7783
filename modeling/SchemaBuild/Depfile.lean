import SchemaBuild.Path

/-!
# Dependency files

The line by which a build system learns what an output was made from.
-/

namespace SchemaBuild.Depfile

/-- A path in a dependency file, where a blank would end it. -/
def escape (path : Path) : String :=
  String.ofList (path.text.toList.flatMap fun character =>
    if character = ' ' then ['\\', ' '] else [character])

def render (targets dependencies : List Path) : String :=
  " ".intercalate (targets.map escape) ++ ":" ++
    String.join (dependencies.map fun dependency => " " ++ escape dependency) ++ "\n"

end SchemaBuild.Depfile
