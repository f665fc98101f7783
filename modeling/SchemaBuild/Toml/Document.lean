import SchemaBuild.Toml.Expression
import SchemaBuild.Toml.Wrapped

/-!
# Documents

A document is a list of statements, one to a line: assignments, headers of tables, and headers of
the next table of an array. It is read as a whole, or refused as a whole.
-/

namespace SchemaBuild.Toml

structure Draft where
  root : Entries := []
  path : List String := []

namespace Draft

def assign (draft : Draft) (assignment : Assignment) : Option Draft := do
  let ((path, key), value) := assignment
  let root ← changeAt .implied
    (fun origin entries => changeAt .dotted (setNew (!path.isEmpty) key value) path origin entries)
    draft.path .header draft.root
  some { draft with root := root }

def startTable (draft : Draft) (path : List String) (key : String) : Option Draft := do
  let root ← changeAt .implied (openTable key) path .header draft.root
  some ⟨root, path ++ [key]⟩

def startNextTable (draft : Draft) (path : List String) (key : String) : Option Draft := do
  let root ← changeAt .implied (openNextTable key) path .header draft.root
  some ⟨root, path ++ [key]⟩

def statement (draft : Draft) : Reader Draft
  | '[' :: '[' :: rest => do
      let ((path, key), rest) ← key? rest
      let rest ← take? ']' (← take? ']' rest)
      some (← draft.startNextTable path key, ← lineEnd? rest)
  | '[' :: rest => do
      let ((path, key), rest) ← key? rest
      let rest ← take? ']' rest
      some (← draft.startTable path key, ← lineEnd? rest)
  | text => do
      let (assignment, rest) ← assignment? (value? nestingLimit) text
      some (← draft.assign assignment, ← lineEnd? rest)

def lines (draft : Draft) (text : List Char) : Option Draft :=
  match skipSpace text with
  | [] => some draft
  | start =>
      let isEmptyLine := start.head? = some '#' || (newline? start).isSome
      let next := if isEmptyLine then (lineEnd? start).map fun rest => (draft, rest)
        else draft.statement start
      match next with
      | none => none
      | some (draft, rest) => if rest.length < text.length then draft.lines rest else none
termination_by text.length

end Draft

/-- The entries of the document that a text spells. A byte order mark in front is skipped, and
tables that wrap dates are taken as these. -/
def parse? (text : String) : Option (List (String × Value)) :=
  let characters := match text.toList with
    | '\ufeff' :: rest => rest
    | other => other
  (Draft.lines {} characters).bind fun draft => unwrapEntries? (entriesToValues draft.root)

end SchemaBuild.Toml
