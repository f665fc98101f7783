import SchemaBuild.FileSystem.Lookup
import SchemaBuild.Path

/-!
# Operations on files

Each operation either changes the tree or refuses. Most of them refuse without any change; those
that work step by step keep the steps they made, and so run in a monad with the tree as state.

Files and directories have permissions, which are kept but never checked: the process is a
privileged one, which may look at everything and change everything, and is refused only what the
tree itself does not allow. Removing a tree empties the directory in one step. It cannot stop half
way with some of the entries gone, so it either removes all of them or is refused before the first.
-/

namespace SchemaBuild

inductive Opened where
  | file (id : FileId)
  | device (device : Device)
  | directory (location : Location)
  deriving DecidableEq

def presentTime : Int := 1767225600

namespace FileSystem

/-! ## Looking -/

def openChannels : Nat := 3

def exists? (files : FileSystem) (path : Bytes) : Bool :=
  match files.locate true path with
  | .ok (.node _ (.device (.channel number))) => number < openChannels
  | .ok (.node _ _) => true
  | _ => false

def isDirectory (files : FileSystem) (path : Bytes) : Bool :=
  match files.locate true path with
  | .ok (.node _ (.directory _)) => true
  | _ => false

/-- Open what is at a path. There is no terminal that could be opened. -/
def openAt (files : FileSystem) (path : Bytes) : Except FileError Opened := do
  match ← files.locate true path with
  | .node _ (.file id) => .ok (.file id)
  | .node _ (.device .terminal) => .error .noDevice
  | .node _ (.device device) => .ok (.device device)
  | .node location (.directory _) => .ok (.directory location)
  | .node _ (.link _) => .error .linkLoop
  | .vacant _ _ => .error .notFound

/-- The content of the file at a path. Devices count as empty. -/
def read (files : FileSystem) (path : Bytes) : Except FileError Content := do
  match ← files.openAt path with
  | .file id => .ok (files.storedAt id).content
  | .device _ => .ok (.bytes [])
  | .directory _ => .error .isDirectory

def readText (files : FileSystem) (path : Bytes) : Except FileError String := do
  match (← files.read path).toBytes.toString? with
  | some text => .ok text
  | none => .error .notText

def list (files : FileSystem) (path : Bytes) : Except FileError Directory := do
  match ← files.locate true path with
  | .node _ (.directory entries) => .ok entries
  | .node _ _ => .error .notDirectory
  | .vacant _ _ => .error .notFound

/-! ## Changing -/

/-- What a new directory takes over from the permissions of the one that it is in. -/
def inheritedPermissions (files : FileSystem) (directory : Location) : Nat :=
  match files.node? directory with
  | some (.directory entries) => entries.permissions &&& 0o2000
  | _ => 0

def makeDirectoryWith (permissions : Nat) (files : FileSystem) (path : Bytes) :
    Except FileError FileSystem := do
  let slot ← files.slot path
  match slot.last with
  | .name name =>
      if longestName < name.length then .error .nameTooLong
      else if (files.entry? slot.directory name).isSome then .error .exists
      else if !files.takesEntries slot.directory then .error .notFound
      else
        let permissions := permissions ||| files.inheritedPermissions slot.directory
        .ok (files.put slot.directory name (.directory (.empty permissions)))
  | _ => .error .exists

def makeDirectory (files : FileSystem) (path : Bytes) : Except FileError FileSystem :=
  files.makeDirectoryWith usualDirectoryPermissions path

/-- Open what is at a path to write to it. A file that is missing is made with the given
permissions, also where a link leads to nothing. -/
def openToWrite (files : FileSystem) (path : Bytes) (permissions : Nat) :
    Except FileError (Opened × FileSystem) := do
  match ← files.seek .writable path with
  | .node _ (.file id) => .ok (.file id, files)
  | .node _ (.device .terminal) => .error .noDevice
  | .node _ (.device device) => .ok (.device device, files)
  | .node _ (.directory _) => .error .isDirectory
  | .node _ (.link _) => .error .linkLoop
  | .vacant directory name =>
      if !files.takesEntries directory then .error .notFound
      else
        .ok (.file files.stored.size, files.putFile directory name
          { permissions := permissions, time := presentTime })

def usualPermissions : Nat := 0o644

def setContent (files : FileSystem) (id : FileId) (content : Content) : FileSystem :=
  files.changeFile id fun file => { file with content := content, time := presentTime }

/-- Replace the content of the file at a path. Devices store nothing, a full one takes nothing, and
a channel has to be open. -/
def replace (files : FileSystem) (path : Bytes) (content : Content) :
    Except FileError FileSystem := do
  match ← files.openToWrite path usualPermissions with
  | (.file id, files) => .ok (files.setContent id content)
  | (.device .full, files) => if content = .bytes [] then .ok files else .error .noSpace
  | (.device (.channel number), files) =>
      if number < openChannels then .ok files else .error .notFound
  | (_, files) => .ok files

def unlink (files : FileSystem) (path : Bytes) : Except FileError FileSystem := do
  let slot ← files.slot path
  match slot.last with
  | .name name =>
      if longestName < name.length then .error .nameTooLong
      else
        match files.entry? slot.directory name with
        | none => .error .notFound
        | some (.directory _) => .error .isDirectory
        | some _ =>
            if slot.slash then .error .notDirectory
            else .ok (files.erase slot.directory name)
  | _ => .error .isDirectory

def removeDirectory (files : FileSystem) (path : Bytes) : Except FileError FileSystem := do
  let slot ← files.slot path
  match slot.last with
  | .name name =>
      if longestName < name.length then .error .nameTooLong
      else
        match files.entry? slot.directory name with
        | none => .error .notFound
        | some (.directory entries) =>
            if entries.isEmpty then .ok (files.erase slot.directory name) else .error .notEmpty
        | some _ => .error .notDirectory
  | .current => .error .invalid
  | .parent => .error .notEmpty
  | .top => .error .busy

def replaceable (isDirectory : Bool) : Option Node → Except FileError Unit
  | none => .ok ()
  | some (.directory entries) =>
      if !isDirectory then .error .isDirectory
      else if entries.isEmpty then .ok ()
      else .error .notEmpty
  | some _ => if isDirectory then .error .notDirectory else .ok ()

def sameFile : Node → Option Node → Bool
  | .file id, some (.file other) => id = other
  | _, _ => false

/-- Give an entry another place and name. A directory may replace an empty directory, anything
else may replace anything but a directory, and nothing goes below itself. Between two names of one
file there is nothing to do. If it does not replace, there must be nothing at the other place. -/
def rename (files : FileSystem) (source target : Bytes) (replaces : Bool := true) :
    Except FileError FileSystem := do
  let old ← files.slot source
  let new ← files.slot target
  match old.last, new.last with
  | .name oldName, .name newName =>
      if longestName < oldName.length || longestName < newName.length then .error .nameTooLong
      else
        match files.entry? old.directory oldName with
        | none => .error .notFound
        | some node =>
            let oldLocation := old.directory ++ [oldName]
            let newLocation := new.directory ++ [newName]
            if !replaces && (files.entry? new.directory newName).isSome then .error .exists
            else if !node.isDirectory && (old.slash || new.slash) then .error .notDirectory
            else if oldLocation = newLocation then .ok files
            else if !files.takesEntries new.directory then .error .notFound
            else if oldLocation.isPrefixOf newLocation then .error .invalid
            else if newLocation.isPrefixOf oldLocation then .error .notEmpty
            else if sameFile node (files.entry? new.directory newName) then .ok files
            else do
              replaceable node.isDirectory (files.entry? new.directory newName)
              .ok ((files.erase old.directory oldName).put new.directory newName node)
  | .name _, _ => .error (if replaces then .busy else .exists)
  | _, _ => .error .busy

def makeLink (files : FileSystem) (target path : Bytes) : Except FileError FileSystem := do
  let slot ← files.slot path
  match slot.last with
  | .name name =>
      if longestName < name.length then .error .nameTooLong
      else if (files.entry? slot.directory name).isSome then .error .exists
      else if slot.slash || target.isEmpty || !files.takesEntries slot.directory then
        .error .notFound
      else .ok (files.put slot.directory name (.link target))
  | _ => .error .exists

/-- Put an entry under a second name. Both are names of one file. -/
def addName (files : FileSystem) (followLast : Bool) (source path : Bytes) :
    Except FileError FileSystem := do
  match ← files.locate followLast source with
  | .vacant _ _ => .error .notFound
  | .node _ node =>
      let slot ← files.slot path
      match slot.last with
      | .name name =>
          if longestName < name.length then .error .nameTooLong
          else if (files.entry? slot.directory name).isSome then .error .exists
          else if slot.slash || !files.takesEntries slot.directory then .error .notFound
          else if node.isDirectory then .error .notPermitted
          else .ok (files.put slot.directory name node)
      | _ => .error .exists

/-- Change the permissions of the file or the directory at a path. Those of devices stay. -/
def changePermissions (files : FileSystem) (path : Bytes) (change : Nat → Nat) :
    Except FileError FileSystem := do
  match ← files.locate true path with
  | .node _ (.file id) =>
      .ok (files.changeFile id fun file => { file with permissions := change file.permissions })
  | .node location (.directory _) =>
      .ok { files with
        root := files.root.change
          (fun entries => entries.setPermissions (change entries.permissions)) location }
  | .node _ _ => .ok files
  | .vacant _ _ => .error .notFound

/-- Change what is stored of the file at a path. Nothing is stored of directories and devices. -/
def changeAt (files : FileSystem) (path : Bytes) (change : StoredFile → StoredFile) :
    Except FileError FileSystem := do
  match ← files.locate true path with
  | .node _ (.file id) => .ok (files.changeFile id change)
  | .node _ _ => .ok files
  | .vacant _ _ => .error .notFound

end FileSystem

/-! ## Changing step by step -/

abbrev FileOperation := ExceptT FileError (StateM FileSystem)

namespace FileOperation

def look {α : Type} (operation : FileSystem → Except FileError α) : FileOperation α := do
  match operation (← get) with
  | .ok value => pure value
  | .error error => throw error

/-- An operation that changes the tree as a whole or not at all. -/
def change (operation : FileSystem → Except FileError FileSystem) : FileOperation Unit := do
  set (← look operation)

/-- Make a directory and the directories above it, as far as they are missing. The path gets
shorter with every step up, so its length bounds the steps. -/
def makeDirectoriesWithin : Nat → Path → FileOperation Unit
  | 0, _ => throw .notFound
  | steps + 1, path => do
      if path.text.isEmpty then return
      match (← get).makeDirectory path.bytes with
      | .ok files => set files
      | .error .notFound =>
          match path.parent? with
          | none => throw .notFound
          | some parent =>
              makeDirectoriesWithin steps parent
              match (← get).makeDirectory path.bytes with
              | .ok files => set files
              | .error error => unless (← get).isDirectory path.bytes do throw error
      | .error error => unless (← get).isDirectory path.bytes do throw error

def makeDirectories (path : Path) : FileOperation Unit :=
  makeDirectoriesWithin (path.text.length + 1) path

/-- Remove a directory with everything below it. A link is removed itself. The directory is
emptied before it is taken out, which shows where its path does not allow to take it out. -/
def removeTree (path : Bytes) : FileOperation Unit := do
  match ← look fun files => files.locate false path with
  | .vacant _ _ => throw .notFound
  | .node _ (.link _) => change fun files => files.unlink path
  | .node location (.directory _) =>
      modify fun files => { files with
        root := files.root.change (fun entries => .empty entries.permissions) location }
      change fun files => files.removeDirectory path
  | .node _ _ => throw .notDirectory

/-- Make the text of a file equal to the given one, and tell whether that took a change. A file
that is missing is made first. A device cannot be cut to the length of nothing. -/
def updateText (path : Bytes) (text : String) : FileOperation Bool := do
  let (opened, files) ←
    look fun files => files.openToWrite path FileSystem.usualPermissions
  set files
  let old ← look fun files => files.readText path
  if old = text then return false
  match opened with
  | .file id => modify fun files => files.setContent id (.ofString text)
  | _ => throw .invalid
  return true

end FileOperation

end SchemaBuild
