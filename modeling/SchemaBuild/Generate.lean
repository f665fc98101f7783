import SchemaBuild.BuildFiles
import SchemaBuild.FileSystem
import SchemaBuild.Manifest.Decode

/-!
# Generating build files

Write the build files of a manifest into a directory. A file whose text did not change is left
alone, so that its time stays as it was.
-/

namespace SchemaBuild

inductive GenerateError where
  | directory (path : Path)
  | update (path : Path) (error : FileError)
  /-- The directory of generated files cannot be written into build files as it is. -/
  | genRoot (path : Path)
  deriving DecidableEq, Repr

namespace GenerateError

def message : GenerateError → String
  | .directory path => "cannot create directory " ++ Text.quoted path.text
  | .update path error =>
      "cannot update " ++ Text.quoted path.text ++ ": " ++ error.message
  | .genRoot path =>
      "unsupported directory for generated files " ++ Text.quoted path.text

end GenerateError

structure GenerateReport where
  files : BuildFiles
  /-- The files that were written, in the order in which they were. -/
  updated : List Path

inductive LoadError where
  | read (path : Path) (error : FileError)
  | content (error : ManifestError)
  deriving DecidableEq, Repr

namespace LoadError

def message : LoadError → String
  | .read path error =>
      "cannot read manifest " ++ Text.quoted path.text ++ ": " ++ error.message
  | .content error => error.message

end LoadError

namespace Manifest

def load (files : FileSystem) (path : Path) : Except LoadError Manifest :=
  match files.readText path.bytes with
  | .error error => .error (.read path error)
  | .ok text => (parse text).mapError LoadError.content

/-- The directory of generated files: as the toolchain says, or below the output directory. -/
def genRoot (manifest : Manifest) (outDir : Path) : Path :=
  match manifest.toolchain.genDir with
  | some directory => ⟨directory⟩
  | none => outDir.join "gen"

abbrev Generation := ExceptT GenerateError (StateM FileSystem)

def during {α : Type} (cause : FileError → GenerateError) (operation : FileOperation α) :
    Generation α :=
  ExceptT.adapt cause operation

def updateFile (outDir : Path) (updated : List Path) (file : String × String) :
    Generation (List Path) := do
  let path := outDir.join file.1
  if ← during (.update path) (FileOperation.updateText path.bytes file.2) then
    return updated ++ [path]
  else return updated

def generate (manifest : Manifest) (outDir : Path) : Generation GenerateReport := do
  let root := manifest.genRoot outDir
  if !isPlainPath root.text then throw (.genRoot root)
  let files := BuildFiles.ofManifest manifest root
  during (fun _ => .directory outDir) (FileOperation.makeDirectories outDir)
  let updated ← files.toList.foldlM (updateFile outDir) []
  return ⟨files, updated⟩

end Manifest

end SchemaBuild
