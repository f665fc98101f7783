import SchemaBuild.FileSystem.Listing
import SchemaBuild.Shell.Utility

/-!
# Nodes

What utilities tell about files, links and directories, and which of them are the same.
-/

namespace SchemaBuild.Shell.Utility

/-! ## Permissions -/

def permissionsOf (files : FileSystem) : Node → Nat
  | .file id => (files.storedAt id).permissions
  | .link _ => 0o777
  | .device _ => 0o666
  | .directory entries => entries.permissions

def permissionText (permissions : Nat) : Script :=
  let part := fun (digit : Nat) (special : Bool) (mark : Char) =>
    let runs := digit &&& 1 ≠ 0
    [if digit &&& 4 ≠ 0 then 'r' else '-', if digit &&& 2 ≠ 0 then 'w' else '-',
      if special then (if runs then mark else mark.toUpper) else if runs then 'x' else '-']
  part (permissions / 64 % 8) (permissions &&& 0o4000 ≠ 0) 's' ++
    part (permissions / 8 % 8) (permissions &&& 0o2000 ≠ 0) 's' ++
    part (permissions % 8) (permissions &&& 0o1000 ≠ 0) 't'

def permissionDigits (permissions : Nat) : Script :=
  [512, 64, 8, 1].map fun place => Char.ofNat ('0'.toNat + permissions / place % 8)

/-! ## Kinds -/

def kindLetter : Node → Char
  | .directory _ => 'd'
  | .link _ => 'l'
  | .device _ => 'c'
  | .file _ => '-'

def kindWords (files : FileSystem) : Node → String
  | .directory _ => "directory"
  | .link _ => "symbolic link"
  | .device _ => "character special file"
  | .file id =>
      if (files.storedAt id).content.toBytes.isEmpty then "regular empty file" else "regular file"

def linkCount (files : FileSystem) : Node → Nat
  | .file id => ((files.root.listing []).filter fun entry => entry.2 = .file id).length
  | .directory entries => 2 + (entries.toList.filter fun entry => entry.2.isDirectory).length
  | _ => 1

/-! ## Sameness -/

inductive Identity where
  | file (id : FileId)
  | place (location : Location)
  deriving DecidableEq

def identityOf (location : Location) : Node → Identity
  | .file id => .file id
  | _ => .place location

structure Found where
  location : Location
  node : Node

namespace Found

def identity (found : Found) : Identity :=
  identityOf found.location found.node

def isDirectory (found : Found) : Bool :=
  found.node.isDirectory

def isLink (found : Found) : Bool :=
  found.node matches .link _

def isFile (found : Found) : Bool :=
  found.node matches .file _

end Found

def findAt (follow : Bool) (path : Script) : Running (Except FileError Found) := do
  match (← get).files.locate follow (Bytes.ofLatin path) with
  | .ok (.node location node) => return .ok ⟨location, node⟩
  | .ok (.vacant _ _) => return .error .notFound
  | .error error => return .error error

def directoryAt (follow : Bool) (path : Script) : Running (Except FileError Unit) := do
  match ← findAt follow path with
  | .ok ⟨_, .directory _⟩ => return .ok ()
  | .ok _ => return .error .notDirectory
  | .error error => return .error error

def entryAt (path : Script) : Running (Option (Location × LastName)) := do
  match (← get).files.slot (Bytes.ofLatin path) with
  | .ok slot => return some (slot.directory, slot.last)
  | .error _ => return none

def directoryIdentity (opened : Option Script) (path : Script) : Running (Option Identity) := do
  let directory := parentPath path
  let isOpen := opened.any fun opened => parentPath (below opened ['x']) = directory
  match ← findAt isOpen directory with
  | .ok found => return some found.identity
  | .error _ => return none

def namesSame (opened : Option Script) (first second : Script) : Running Bool := do
  if lastName first ≠ lastName second then return false
  match ← directoryIdentity none first, ← directoryIdentity opened second with
  | some first, some second => return first = second
  | _, _ => return false

end SchemaBuild.Shell.Utility
