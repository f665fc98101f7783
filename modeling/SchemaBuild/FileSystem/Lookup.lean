import SchemaBuild.FileSystem.Error
import SchemaBuild.FileSystem.Node

/-!
# Finding what a path names

A location is the list of names that lead from the top of the tree to an entry, through
directories only. A path is written text: it may hold dots, doubled slashes, and names of
symbolic links, which have to be followed. A path that starts with a slash is walked from the top
of the tree, any other one from the working directory.
-/

namespace SchemaBuild

abbrev Location := List Name

structure FileSystem where
  root : Directory := ∅
  /-- The files by their numbers. -/
  stored : Array StoredFile := #[]
  /-- Where relative paths start. -/
  working : Location := []
  /-- The directories that tell about running programs. Nothing can be put into them or below
  them. -/
  views : List Location := []
  deriving DecidableEq, Inhabited

/-- What a path leads to: an entry, or a name that a directory does not have. -/
inductive Place where
  | node (location : Location) (node : Node)
  | vacant (directory : Location) (name : Name)

inductive LastName where
  | name (name : Name)
  | current
  | parent
  | top
  deriving DecidableEq

structure Slot where
  directory : Location
  last : LastName
  slash : Bool

def slashByte : UInt8 := 0x2f

def currentName : Name := [0x2e]

def parentName : Name := [0x2e, 0x2e]

def longestName : Nat := 255

def pathLimit : Nat := 4096

def linkLimit : Nat := 40

def pathNames (path : Bytes) : List Name :=
  (path.splitOn slashByte).filter fun name => !name.isEmpty

def endsInSlash (path : Bytes) : Bool :=
  path.getLast? = some slashByte

/-- What a walk meets at the end of a path that ends with a slash. It asks for a directory, as a dot
does. -/
def finalSlash : Name := []

def walkNames (path : Bytes) : List Name :=
  pathNames path ++ if endsInSlash path then [finalSlash] else []

inductive Sought where
  /-- The entry itself, even if it is a link. -/
  | entry
  /-- What the entry leads to. -/
  | target
  /-- A file to write to, which need not be there yet. A last name with a slash behind it can only
  be that of a directory. -/
  | writable
  deriving DecidableEq

def walkStart (path : Bytes) (directory : Location) : Location :=
  if path.head? = some slashByte then [] else directory

namespace FileSystem

def node? (files : FileSystem) (location : Location) : Option Node :=
  files.root.find? location

/-- Walk along names. A link is followed unless it is the last name and itself sought; how the walk
goes on from a link is told by `follow`, which gets the link's directory, its target and the names
that are left. -/
def walkWith (files : FileSystem) (sought : Sought)
    (follow : Location → Bytes → List Name → Except FileError Place) :
    List Name → Location → Except FileError Place
  | [], location =>
      match files.node? location with
      | some node => .ok (.node location node)
      | none => .error .notFound
  | name :: names, location =>
      if name = currentName || name = finalSlash then files.walkWith sought follow names location
      else if name = parentName then files.walkWith sought follow names location.dropLast
      else if sought = .writable && names = [finalSlash] then .error .isDirectory
      else if longestName < name.length then .error .nameTooLong
      else
        match files.node? (location ++ [name]) with
        | none =>
            if names.isEmpty && (files.node? location).isSome then .ok (.vacant location name)
            else .error .notFound
        | some (.directory _) => files.walkWith sought follow names (location ++ [name])
        | some (.link target) =>
            if names.isEmpty && sought = .entry then
              .ok (.node (location ++ [name]) (.link target))
            else follow location target names
        | some node =>
            if names.isEmpty then .ok (.node (location ++ [name]) node)
            else .error .notDirectory

def walk (files : FileSystem) (sought : Sought) :
    Nat → List Name → Location → Except FileError Place
  | 0 => files.walkWith sought fun _ _ _ => .error .linkLoop
  | links + 1 => files.walkWith sought fun location target names =>
      files.walk sought links (walkNames target ++ names) (walkStart target location)

def seek (files : FileSystem) (sought : Sought) (path : Bytes) : Except FileError Place :=
  if path.contains 0 then .error .zeroInPath
  else if path.isEmpty then .error .notFound
  else if pathLimit ≤ path.length then .error .nameTooLong
  else files.walk sought linkLimit (walkNames path) (walkStart path files.working)

/-- What a path leads to, where a link at its end is followed or not. -/
def locate (files : FileSystem) (followLast : Bool) (path : Bytes) : Except FileError Place :=
  files.seek (if followLast then .target else .entry) path

/-- The directory to which a path leads without its last name. -/
def slot (files : FileSystem) (path : Bytes) : Except FileError Slot :=
  if path.contains 0 then .error .zeroInPath
  else if path.isEmpty then .error .notFound
  else if pathLimit ≤ path.length then .error .nameTooLong
  else
    let names := pathNames path
    let last := match names.getLast? with
      | none => .top
      | some name =>
          if name = currentName then .current
          else if name = parentName then .parent
          else .name name
    match files.walk .target linkLimit (names.dropLast ++ [currentName])
        (walkStart path files.working) with
    | .error error => .error error
    | .ok (.node location (.directory _)) => .ok ⟨location, last, endsInSlash path⟩
    | .ok _ => .error .notDirectory

def entry? (files : FileSystem) (directory : Location) (name : Name) : Option Node :=
  files.node? (directory ++ [name])

/-- What is stored of a file. A number that was never given out stands for an empty file. -/
def storedAt (files : FileSystem) (id : FileId) : StoredFile :=
  files.stored.getD id {}

/-- Whether something can be put into a directory. -/
def takesEntries (files : FileSystem) (directory : Location) : Bool :=
  !files.views.any fun view => view.isPrefixOf directory

def put (files : FileSystem) (directory : Location) (name : Name) (node : Node) : FileSystem :=
  { files with root := files.root.change (fun entries => entries.put name node) directory }

def erase (files : FileSystem) (directory : Location) (name : Name) : FileSystem :=
  { files with root := files.root.change (fun entries => entries.erase name) directory }

def changeFile (files : FileSystem) (id : FileId) (change : StoredFile → StoredFile) :
    FileSystem :=
  { files with stored := files.stored.modify id change }

def putFile (files : FileSystem) (directory : Location) (name : Name) (file : StoredFile) :
    FileSystem :=
  { files.put directory name (.file files.stored.size) with stored := files.stored.push file }

end FileSystem

end SchemaBuild
