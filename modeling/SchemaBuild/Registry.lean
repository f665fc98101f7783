import SchemaBuild.Docs
import SchemaBuild.NameMap

/-!
# The registry of modules

All modules of a build, filled in two phases. Schema modules are registered first, under names of
their own. Then each of them that was not visited before gets its documentation module. Derived
modules are never visited, and a second pass finds nothing to do.
-/

namespace SchemaBuild

inductive Entry where
  | schema (schema : Schema)
  | docs (docs : DocsModule)
  deriving DecidableEq

namespace Entry

def name : Entry → String
  | .schema module => module.name
  | .docs module => module.name

end Entry

inductive RegistryError where
  /-- The name is registered already. -/
  | duplicate (name : String)
  /-- The name of a documentation module belongs to an unrelated module. -/
  | docsConflict (parent docs : String)
  /-- The name of a target belongs to another module. -/
  | targetConflict (module target owner : String)
  deriving DecidableEq, Repr

namespace RegistryError

def message : RegistryError → String
  | .duplicate name => "duplicate module '" ++ name ++ "'"
  | .docsConflict parent docs =>
      "cannot derive '" ++ docs ++ "' from '" ++ parent ++ "': name is taken"
  | .targetConflict module target owner =>
      "module '" ++ module ++ "': target '" ++ target ++ "' is already declared by '" ++
        owner ++ "'"

end RegistryError

structure Registry where
  modules : NameMap Entry
  visited : List String

structure Derivation where
  registry : Registry
  created : Nat
  errors : List RegistryError

namespace Registry

def empty : Registry :=
  ⟨.empty, []⟩

def register (registry : Registry) (schema : Schema) : Except RegistryError Registry :=
  if registry.modules.contains schema.name then .error (.duplicate schema.name)
  else .ok { registry with modules := registry.modules.insert schema.name (.schema schema) }

def entries (registry : Registry) : List Entry :=
  registry.modules.values

def schemas (registry : Registry) : List Schema :=
  registry.entries.filterMap fun
    | .schema schema => some schema
    | .docs _ => none

def docs (registry : Registry) : List DocsModule :=
  registry.entries.filterMap fun
    | .schema _ => none
    | .docs docs => some docs

/-- Settle one documentation module: create it, keep it if it is there already, or report that
another module has its name. In each case the module that it was derived from is visited now. -/
def deriveOne (derivation : Derivation) (docs : DocsModule) : Derivation :=
  let registry := derivation.registry
  let parent := docs.parent?.getD ""
  let visited := parent :: registry.visited
  match registry.modules.get? docs.name with
  | none => {
      derivation with
      registry := ⟨registry.modules.insert docs.name (.docs docs), visited⟩
      created := derivation.created + 1 }
  | some entry =>
      let settled := { derivation with registry := ⟨registry.modules, visited⟩ }
      if entry = .docs docs then settled
      else { settled with errors := settled.errors ++ [.docsConflict parent docs.name] }

/-- The schema modules that were not visited before, in the order of their names. -/
def pending (registry : Registry) : List Schema :=
  registry.schemas.filter fun schema => !registry.visited.contains schema.name

/-- Settle the documentation of every schema module that was not visited before. A conflict does
not stop the pass. -/
def deriveDocs (registry : Registry) : Derivation :=
  (registry.pending.map DocsModule.ofSchema).foldl deriveOne ⟨registry, 0, []⟩

end Registry

end SchemaBuild
