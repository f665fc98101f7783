import SchemaBuild.Archive

/-!
# Files, links and directories

What a file system holds. Directories form a tree, in which every entry has a name; entries that
are added go to their place in the order of bytes. Files are known by numbers, so that one file
can be listed under several names.
-/

namespace SchemaBuild

/-- The content of a file. An archive that was written here is known by its entries, and a program
of the system by its name. -/
inductive Content where
  | bytes (bytes : Bytes)
  | archive (archive : Archive)
  | program (name : String)
  deriving DecidableEq

namespace Content

def programMark : Bytes := [0x7f, 0x45, 0x4c, 0x46]

def toBytes : Content → Bytes
  | .bytes content => content
  | .archive content => content.encode
  | .program name => programMark ++ 0 :: Bytes.ofString name

def ofString (text : String) : Content :=
  .bytes (Bytes.ofString text)

end Content

structure StoredFile where
  content : Content := .bytes []
  /-- Who may do what with the file, as three octal digits. -/
  permissions : Nat := 0o644
  /-- When the content was written, in seconds. -/
  time : Int := 0
  deriving DecidableEq

namespace StoredFile

def executable (file : StoredFile) : Bool :=
  file.permissions &&& 0o111 ≠ 0

end StoredFile

abbrev FileId := Nat

/-- A device, which is listed like a file but stores nothing. -/
inductive Device where
  /-- Takes everything and gives nothing. -/
  | null
  /-- Gives zeros without end, and takes everything. -/
  | zero
  /-- Has no space for anything. -/
  | full
  /-- The terminal of a program, of which there is none. -/
  | terminal
  /-- A channel of the program that uses it. -/
  | channel (number : Nat)
  deriving DecidableEq, Repr

abbrev Name := Bytes

mutual

inductive Node where
  | file (id : FileId)
  /-- A symbolic link, with the path it was made with. -/
  | link (target : Bytes)
  | device (device : Device)
  | directory (entries : Directory)

/-- The entries of a directory in the order in which they are listed, and behind them who may do
what with the directory. -/
inductive Directory where
  | empty (permissions : Nat)
  | cons (name : Name) (node : Node) (rest : Directory)

end

deriving instance DecidableEq for Node
deriving instance DecidableEq for Directory

def usualDirectoryPermissions : Nat := 0o755

instance : Inhabited Directory := ⟨.empty usualDirectoryPermissions⟩

instance : EmptyCollection Directory := ⟨.empty usualDirectoryPermissions⟩

namespace Node

def isDirectory : Node → Bool
  | .directory _ => true
  | _ => false

end Node

namespace Directory

def toList : Directory → List (Name × Node)
  | .empty _ => []
  | .cons name node rest => (name, node) :: rest.toList

def isEmpty : Directory → Bool
  | .empty _ => true
  | .cons _ _ _ => false

def permissions : Directory → Nat
  | .empty permissions => permissions
  | .cons _ _ rest => rest.permissions

def setPermissions (permissions : Nat) : Directory → Directory
  | .empty _ => .empty permissions
  | .cons name node rest => .cons name node (rest.setPermissions permissions)

def get? (name : Name) : Directory → Option Node
  | .empty _ => none
  | .cons other node rest => if other = name then some node else rest.get? name

def put (name : Name) (node : Node) : Directory → Directory
  | .empty permissions => .cons name node (.empty permissions)
  | .cons other old rest =>
      if other = name then .cons name node rest
      else if name < other then .cons name node (.cons other old rest)
      else .cons other old (rest.put name node)

def erase (name : Name) : Directory → Directory
  | .empty permissions => .empty permissions
  | .cons other node rest =>
      if other = name then rest else .cons other node (rest.erase name)

def ofList (entries : List (Name × Node)) : Directory :=
  entries.foldl (fun directory (name, node) => directory.put name node) ∅

def find? : List Name → Directory → Option Node
  | [], directory => some (.directory directory)
  | name :: names, directory =>
      match directory.get? name with
      | some (.directory inner) => inner.find? names
      | some node => if names.isEmpty then some node else none
      | none => none

def change (update : Directory → Directory) : List Name → Directory → Directory
  | [], directory => update directory
  | name :: names, directory =>
      match directory.get? name with
      | some (.directory inner) => directory.put name (.directory (inner.change update names))
      | _ => directory

end Directory

end SchemaBuild
