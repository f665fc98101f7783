import SchemaBuild.Action
import SchemaBuild.Depfile
import SchemaBuild.FileSystem.Listing
import SchemaBuild.Text.Character
import SchemaBuild.World

/-!
# Compiler jobs

A job runs the schema compiler once and publishes what it generates. The compiler writes into a
staging directory next to the output. Only when it succeeds is the output published: an archive
is written beside the old one and then takes its place, a directory takes the place of the old
one. The staging directory is removed however the job ends. At last the dependency file tells
what the output was made from.
-/

namespace SchemaBuild

inductive Publication where
  | archive (path : Path)
  | directory (path : Path)
  deriving DecidableEq, Repr

namespace Publication

def path : Publication → Path
  | .archive path => path
  | .directory path => path

end Publication

structure Job where
  /-- The compiler's command: words with blanks between them. -/
  xsdc : String
  schema : Path
  packageName : String
  /-- Arguments after the positional ones. -/
  args : List String
  /-- The files that the schema includes, for the dependency file. -/
  includes : List Path
  output : Publication
  depfile : Path
  /-- The targets of the dependency file. If there are none, the output is the target. -/
  depfileTargets : List Path
  deriving DecidableEq, Repr

inductive ArchiveError where
  | file (error : FileError)
  /-- Two entries have the same name. -/
  | duplicateName (name : String)
  deriving DecidableEq, Repr

namespace ArchiveError

def message : ArchiveError → String
  | .file error => "i/o error: " ++ error.message
  | .duplicateName name => "invalid Zip archive: Duplicate filename: " ++ name

end ArchiveError

inductive JobError where
  | emptyCommand
  | staging (path : Path) (error : FileError)
  | start (program : String) (error : FileError)
  | compiler (status : ExitStatus)
  | archive (path : Path) (error : ArchiveError)
  | update (path : Path) (error : FileError)
  | removal (path : Path) (error : FileError)
  | missingOutput (path : Path)
  deriving DecidableEq, Repr

namespace JobError

def message : JobError → String
  | .emptyCommand => "empty compiler command"
  | .staging path error =>
      "cannot create staging directory " ++ Text.quoted path.text ++ ": " ++ error.message
  | .start program error => "cannot execute '" ++ program ++ "': " ++ error.message
  | .compiler status => "schema compiler failed (" ++ status.message ++ ")"
  | .archive path error =>
      "cannot write archive " ++ Text.quoted path.text ++ ": " ++ error.message
  | .update path error => "cannot update " ++ Text.quoted path.text ++ ": " ++ error.message
  | .removal path error => "cannot remove " ++ Text.quoted path.text ++ ": " ++ error.message
  | .missingOutput path => "schema compiler did not produce " ++ Text.quoted path.text

end JobError

namespace Job

def ofAction (action : Action) (xsdc : String) : Job where
  xsdc := xsdc
  schema := action.input
  packageName := action.packageName
  args := action.args
  includes := action.implicitInputs
  output := match action.language with
    | .java => .archive action.output
    | .cpp => .directory action.output
  depfile := action.depfile
  depfileTargets := action.outputs

/-! ## Steps -/

abbrev Step := ExceptT JobError (StateM World)

def onFiles {ε α : Type} (cause : FileError → ε) (operation : FileOperation α) :
    ExceptT ε (StateM World) α := do
  let world ← get
  let (result, files) := operation.run.run world.files
  set { world with files := files }
  match result with
  | .ok value => pure value
  | .error error => throw (cause error)

def ifThere (operation : FileOperation Unit) : FileOperation Unit :=
  tryCatch operation fun error => if error = .notFound then pure () else throw error

def removeTree (path : Path) : Step Unit :=
  onFiles (.removal path) (ifThere (FileOperation.removeTree path.bytes))

def removeFile (path : Path) : Step Unit :=
  onFiles (.removal path)
    (ifThere (FileOperation.change fun files => files.unlink path.bytes))

def makeParent (path : Path) : Step Unit :=
  match path.parent? with
  | none => pure ()
  | some parent =>
      if parent.text.isEmpty then pure ()
      else onFiles (.update parent) (FileOperation.makeDirectories parent)

/-- Make an empty staging directory, whatever an earlier run left behind. -/
def makeStaging (staging : Path) : Step Unit := do
  removeTree staging
  onFiles (.staging staging) (FileOperation.makeDirectories staging)

/-- Run the compiler. What it prints is printed. -/
def runCompiler (programs : Programs) (program : String) (arguments : List String) :
    Step Unit := do
  let world ← get
  let run := programs (program :: arguments) world
  set { world with files := run.files, console := world.console.append run.console }
  match run.outcome with
  | .error error => throw (.start program error)
  | .ok status => unless status.isSuccess do throw (.compiler status)

/-! ## Archives of directories -/

/-- The name of an entry below a directory with the given path. Bytes that are not text are
replaced. -/
def relativeName (above : String) (name : Name) : String :=
  if above.isEmpty then name.toStringLossy else above ++ "/" ++ name.toStringLossy

mutual

/-- The paths of all files below a node, which itself has the given path. Links count as files,
whatever they lead to. -/
def filesBelowNode (path : String) : Node → List String
  | .directory entries => filesBelow path entries
  | _ => [path]

/-- The paths of all files below a directory with the given path. -/
def filesBelow (above : String) : Directory → List String
  | .empty _ => []
  | .cons name node rest =>
      filesBelowNode (relativeName above name) node ++ filesBelow above rest

end

/-- The paths of all files below a directory, relative to it, in ascending order. -/
def collectFiles (directory : Directory) : List String :=
  (filesBelow "" directory).mergeSort fun left right => decide (left ≤ right)

def areListable (root : Path) (directory : Directory) : Bool :=
  (directory.listing root.bytes).all fun (path, node) =>
    !node.isDirectory || path.length < pathLimit

/-- Why an archive cannot be written to what was opened for it. Writing goes back to the headers of
the entries, which a channel for what is printed does not allow. -/
def archiveRefusal? (isSilent : Bool) : Opened → Option FileError
  | .device .full => some .noSpace
  | .device (.channel number) => if isSilent || number = 0 then none else some .notSeekable
  | _ => none

def openArchive (path : Path) : FileOperation Opened := do
  let (opened, files) ←
    FileOperation.look fun files => files.openToWrite path.bytes FileSystem.usualPermissions
  match opened with
  | .file id => set (files.setContent id (.bytes []))
  | .device (.channel number) => if FileSystem.openChannels ≤ number then throw .notFound
  | _ => set files
  return opened

/-- The data of an entry that comes after the entries of an archive. A link is read through, even
where it leads to the file of the archive. -/
def entryData (files : FileSystem) (opened : Opened) (archive : Archive) (path : Path) :
    Except FileError Bytes := do
  if (files.openAt path.bytes).toOption = some opened && opened matches .file _ then
    return archive.begun
  return (← files.read path.bytes).toBytes

/-- Add entries to an archive, up to the first one that cannot be added, and tell why. Nothing can
be added if there is a refusal. -/
def addEntries (files : FileSystem) (root : Path) (opened : Opened) (refusal : Option FileError) :
    Archive → List String → Archive × Option ArchiveError
  | archive, [] => (archive, refusal.map .file)
  | archive, name :: names =>
      match entryData files opened archive (root.join name) with
      | .error error => (archive, some (.file error))
      | .ok data =>
          match refusal with
          | some error => (archive, some (.file error))
          | none =>
              if archive.any fun entry => entry.name = name then
                (archive, some (.duplicateName name))
              else addEntries files root opened refusal (archive ++ [⟨name, data⟩]) names

def unfinishedNotice (error : FileError) : String :=
  let (number, words) := error.describe
  let kind := if error = .noSpace then "StorageFull" else "NotSeekable"
  s!"ZipWriter drop failed: Io(Os \x7b code: {number.getD 0}, kind: {kind}, message: " ++
    Text.quoted words ++ " \x7d)"

/-- Write the files below a directory into an archive. The file of the archive is made before the
entries are read. If an entry cannot be added, the archive ends before it. -/
def writeArchive (root path : Path) : ExceptT ArchiveError (StateM World) Unit := do
  let directory ← onFiles .file (FileOperation.look fun files => files.list root.bytes)
  unless areListable root directory do throw (.file .nameTooLong)
  let opened ← onFiles .file (openArchive path)
  let world ← get
  let refusal := archiveRefusal? world.isSilent opened
  let (archive, failure) := addEntries world.files root opened refusal [] (collectFiles directory)
  if let .file id := opened then
    modify fun world => { world with files := world.files.setContent id (.archive archive) }
  if let some error := refusal then
    modify fun world => { world with
      console := world.console.write 2 (Bytes.ofString (unfinishedNotice error)) }
  if let some error := failure then throw error

def publishArchive (staging path : Path) : Step Unit := do
  match ← (writeArchive staging path.unfinished).run with
  | .error error =>
      removeFile path.unfinished
      throw (.archive path error)
  | .ok () =>
      onFiles (.update path)
        (FileOperation.change fun files => files.rename path.unfinished.bytes path.bytes)

def publishDirectory (staging path : Path) : Step Unit := do
  removeTree path
  onFiles (.update path)
    (FileOperation.change fun files => files.rename staging.bytes path.bytes)

def publish (staging : Path) : Publication → Step Unit
  | .archive path => publishArchive staging path
  | .directory path => publishDirectory staging path

/-! ## The whole job -/

def targets (job : Job) : List Path :=
  if job.depfileTargets.isEmpty then [job.output.path] else job.depfileTargets

def compileAndPublish (job : Job) (programs : Programs) (program : String)
    (arguments : List String) : Step Unit := do
  let staging := job.output.path.staging
  runCompiler programs program
    (arguments ++ [job.schema.text, job.packageName, staging.text] ++ job.args)
  publish staging job.output

/-- Write a text to the file at a path. What is written to a channel is printed. -/
def writeText (path : Path) (text : String) : Step Unit := do
  onFiles (.update path) (FileOperation.change fun files =>
    files.replace path.bytes (.ofString text))
  match (← get).files.openAt path.bytes with
  | .ok (.device (.channel number)) =>
      modify fun world => { world with console := world.console.write number (Bytes.ofString text) }
  | _ => pure ()

def finish (job : Job) : Step Unit := do
  let world ← get
  match job.targets.find? fun path => !world.files.exists? path.bytes with
  | some path => throw (.missingOutput path)
  | none =>
      makeParent job.depfile
      writeText job.depfile (Depfile.render job.targets job.includes)

def run (programs : Programs) (job : Job) : Step Unit := do
  match Text.words job.xsdc with
  | [] => throw .emptyCommand
  | program :: arguments =>
      let staging := job.output.path.staging
      makeParent job.output.path
      makeStaging staging
      let result ← observing (job.compileAndPublish programs program arguments)
      discard (observing (removeTree staging))
      ofExcept result
      job.finish

end Job

end SchemaBuild
