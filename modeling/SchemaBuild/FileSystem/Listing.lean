import SchemaBuild.FileSystem.Lookup

/-!
# Listings

Everything below a directory with its path, in the order of the paths' bytes.
-/

namespace SchemaBuild

/-- The path of a name below a directory. The top has an empty path. -/
def belowPath (above : Bytes) (name : Name) : Bytes :=
  if above.isEmpty then name else above ++ slashByte :: name

mutual

def Node.listing (path : Bytes) : Node → List (Bytes × Node)
  | .directory entries => (path, .directory entries) :: entries.listing path
  | node => [(path, node)]

def Directory.listing (above : Bytes) : Directory → List (Bytes × Node)
  | .empty _ => []
  | .cons name node rest => node.listing (belowPath above name) ++ rest.listing above

end

def shownBytes (path : Bytes) : Bytes :=
  Bytes.ofString path.toStringLossy

namespace FileSystem

/-- All nodes below the working directory, in the order of the bytes of their paths as they are
shown. -/
def listing (files : FileSystem) : List (Bytes × Node) :=
  match files.node? files.working with
  | some (.directory entries) =>
      (entries.listing []).mergeSort fun left right =>
        decide (shownBytes left.1 ≤ shownBytes right.1)
  | _ => []

end FileSystem

end SchemaBuild
