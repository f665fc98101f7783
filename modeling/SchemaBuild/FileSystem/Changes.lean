import SchemaBuild.FileSystem
import SchemaBuild.FileSystem.Listing

/-!
# Changes

What has to be done to one tree of files to make it equal to another one.
-/

namespace SchemaBuild

inductive Change where
  | removeFile (path : Bytes)
  | removeDirectory (path : Bytes)
  | makeDirectory (path : Bytes)
  | write (path : Bytes) (content : Bytes)
  deriving DecidableEq

namespace FileSystem

/-- Whether two nodes are of one kind, so that one can become the other in its place. -/
def sameKind : Node → Node → Bool
  | .directory _, .directory _ => true
  | .file _, .file _ => true
  | .link _, .link _ => true
  | _, _ => false

def listed? (listing : List (Bytes × Node)) (path : Bytes) : Option Node :=
  (listing.find? fun entry => entry.1 = path).map (·.2)

def removals (before after : FileSystem) : List Change :=
  before.listing.reverse.filterMap fun (path, node) =>
    if (listed? after.listing path).any (sameKind node) then none
    else
      match node with
      | .directory _ => some (.removeDirectory path)
      | _ => some (.removeFile path)

/-- What has to come: directories that are new, and files with new content. A link comes as the
file that it leads to. -/
def additions (before after : FileSystem) : List Change :=
  after.listing.filterMap fun (path, node) =>
    let old := listed? before.listing path
    match node with
    | .directory _ => if old.any (sameKind node) then none else some (.makeDirectory path)
    | _ =>
        match before.read path, after.read path with
        | .ok oldContent, .ok content =>
            if oldContent = content && old.any (sameKind node) then none
            else some (.write path content.toBytes)
        | .error _, .ok content => some (.write path content.toBytes)
        | _, .error _ => none

def changes (before after : FileSystem) : List Change :=
  removals before after ++ additions before after

end FileSystem

end SchemaBuild
