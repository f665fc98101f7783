import SchemaBuild.Text.Bytes

/-!
# Paths

A path is kept as it was written. Joining, taking the parent and appending a suffix work on the
written form, so a doubled or a trailing slash survives.
-/

namespace SchemaBuild

structure Path where
  text : String
  deriving DecidableEq, Repr, Inhabited

namespace Path

def bytes (path : Path) : Bytes :=
  Bytes.ofString path.text

/-- A path below another one. A slash is put between them where there is none, an empty base
adds nothing, and a child that starts at the root stands for itself. -/
def join (base : Path) (child : String) : Path :=
  if child.toList.head? = some '/' then ⟨child⟩
  else if base.text.toList.getLast?.all (· = '/') then ⟨base.text ++ child⟩
  else ⟨base.text ++ "/" ++ child⟩

/-- Append to the final component, whatever it is. -/
def withSuffix (path : Path) (suffix : String) : Path :=
  ⟨path.text ++ suffix⟩

/-- Drop the segments at the end that name nothing: empty ones, and dots. The first segment
stays, since it is the root, the start of a relative path, or a leading dot. -/
def trimSegments : List (List Char) → List (List Char)
  | [] => []
  | first :: rest =>
      first :: (rest.reverse.dropWhile fun segment => segment = [] || segment = ['.']).reverse

/-- The path without its last component. The root and the empty path have no parent. -/
def parent? (path : Path) : Option Path :=
  match trimSegments (path.text.toList.splitOn '/') with
  | [[]] => none
  | segments =>
      match trimSegments segments.dropLast with
      | [[]] => some ⟨"/"⟩
      | kept => some ⟨String.ofList (['/'].intercalate kept)⟩

example : parent? ⟨"a/./b//"⟩ = some ⟨"a"⟩ := by decide +kernel
example : parent? ⟨"./b"⟩ = some ⟨"."⟩ := by decide +kernel
example : parent? ⟨"//b"⟩ = some ⟨"/"⟩ := by decide +kernel
example : parent? ⟨"a/."⟩ = some ⟨""⟩ := by decide +kernel

end Path

end SchemaBuild
