import SchemaBuild.Toml.Value

/-!
# Tables under construction

A document grows statement by statement, and what a later statement may still add to a table
depends on how the table came about. Items remember that; once a document is read they become
plain values.
-/

namespace SchemaBuild.Toml

inductive Origin where
  | header
  | implied
  | dotted
  deriving DecidableEq, Repr

inductive Item where
  | value (value : Value)
  | table (origin : Origin) (entries : List (String × Item))
  | tables (tables : List (List (String × Item)))
  deriving Inhabited

abbrev Entries := List (String × Item)

namespace Entries

def put (key : String) (item : Item) : Entries → Entries
  | [] => [(key, item)]
  | (other, old) :: rest =>
      if other = key then (key, item) :: rest else (other, old) :: put key item rest

def putLast (key : String) (item : Item) (entries : Entries) : Entries :=
  entries.filter (fun entry => entry.1 ≠ key) ++ [(key, item)]

end Entries

def changeLast? {α : Type} (change : α → Option α) : List α → Option (List α)
  | [] => none
  | [last] => (change last).map fun changed => [changed]
  | first :: rest => (changeLast? change rest).map (first :: ·)

/-- Change the table at a path below a table. Tables that are missing on the way are made, with
the origin `made`. In an array of tables the last one is meant. The path may not lead through a
value, and a dotted path not through a table that has a header. -/
def changeAt (made : Origin) (change : Origin → Entries → Option Entries) :
    List String → Origin → Entries → Option Entries
  | [], origin, entries => change origin entries
  | key :: path, _, entries =>
      match entries.lookup key with
      | none => (changeAt made change path made []).map fun changed =>
          entries.put key (.table made changed)
      | some (.value _) => none
      | some (.tables tables) =>
          (changeLast? (changeAt made change path .header) tables).map fun changed =>
            entries.put key (.tables changed)
      | some (.table origin inner) =>
          if made = .dotted && origin = .header then none
          else (changeAt made change path origin inner).map fun changed =>
            entries.put key (.table origin changed)

/-- Open the table of a header. A table that was only implied so far gets its header now, and its
place behind the keys before it. -/
def openTable (key : String) (_ : Origin) (entries : Entries) : Option Entries :=
  match entries.lookup key with
  | none => some (entries.put key (.table .header []))
  | some (.table .implied inner) => some (entries.putLast key (.table .header inner))
  | some _ => none

def openNextTable (key : String) (_ : Origin) (entries : Entries) : Option Entries :=
  match entries.lookup key with
  | none => some (entries.put key (.tables [[]]))
  | some (.tables tables) => some (entries.put key (.tables (tables ++ [[]])))
  | some _ => none

/-- Set a key that is new. The table must have come about by dotted keys if and only if the key
was reached by one. -/
def setNew (reachedByDots : Bool) (key : String) (value : Value) (origin : Origin)
    (entries : Entries) : Option Entries :=
  if (origin = .dotted) ≠ reachedByDots then none
  else if (entries.lookup key).isSome then none
  else some (entries.put key (.value value))

mutual

def Item.toValue : Item → Value
  | .value value => value
  | .table _ entries => .table (entriesToValues entries)
  | .tables tables => .array (tablesToValues tables)

def entriesToValues : List (String × Item) → List (String × Value)
  | [] => []
  | (key, item) :: rest => (key, item.toValue) :: entriesToValues rest

def tablesToValues : List (List (String × Item)) → List Value
  | [] => []
  | entries :: rest => .table (entriesToValues entries) :: tablesToValues rest

end

end SchemaBuild.Toml
