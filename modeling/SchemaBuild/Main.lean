import SchemaBuild.CommandLine
import SchemaBuild.FileSystem.Changes
import SchemaBuild.Shell.Programs

/-!
# The tool

The working directory is read into a tree of files, the command line runs on that tree, and what
it changed is written back. Paths out of the working directory are not seen.
-/

namespace SchemaBuild

/-- Put what stands at a path of the host below a directory. Links are read through. -/
partial def readInto (files : FileSystem) (location : Location) (entry : IO.FS.DirEntry) :
    IO FileSystem := do
  let name := Bytes.ofString entry.fileName
  if ← entry.path.isDir then
    let files := files.put location name (.directory ∅)
    (← entry.path.readDir).foldlM (fun files inner => readInto files (location ++ [name]) inner)
      files
  else
    let content ← IO.FS.readBinFile entry.path
    return files.putFile location name { content := .bytes content.data.toList }

def readWorkingDirectory : IO FileSystem := do
  let files := Shell.emptySystem
  let entries ← (⟨".", "."⟩ : IO.FS.DirEntry).path.readDir
  entries.foldlM (fun files entry => readInto files files.working entry) files

def applyChange : Change → IO Unit
  | .removeFile path => IO.FS.removeFile path.toStringLossy
  | .removeDirectory path => IO.FS.removeDirAll path.toStringLossy
  | .makeDirectory path => IO.FS.createDirAll path.toStringLossy
  | .write path content => IO.FS.writeBinFile path.toStringLossy ⟨content.toArray⟩

def runTool (arguments : List String) : IO UInt32 := do
  let before ← readWorkingDirectory
  let (code, world) := (CommandLine.run Shell.programs arguments).run { files := before }
  (before.changes world.files).forM applyChange
  (← IO.getStdout).write ⟨world.console.out.toArray⟩
  (← IO.getStderr).write ⟨world.console.err.toArray⟩
  return code.toUInt32

end SchemaBuild

def main (arguments : List String) : IO UInt32 :=
  SchemaBuild.runTool arguments
