import SchemaBuild.Proofs.NameMap
import SchemaBuild.Registry

/-!
# The registry in the course of calls

Modules are registered and passes are made in any order, and a registration may fail. Whatever the
calls were, every documentation module stems from a schema module that was visited, and nothing
that was registered is ever lost. The invariant is carried through a pass by saying what the pass
does to the registry as a whole.
-/

namespace SchemaBuild

/-! ## Names of documentation modules -/

namespace DocsModule

@[simp] theorem name_ofSchema (schema : Schema) : (ofSchema schema).name = nameOf schema.name :=
  rfl

theorem nameOf_inj {left right : String} : nameOf left = nameOf right ↔ left = right :=
  String.append_left_inj "-docs"

theorem nodup_nameOf {schemas : List Schema} (distinct : (schemas.map Schema.name).Nodup) :
    (schemas.map fun schema => nameOf schema.name).Nodup := by
  rw [← Function.comp_def nameOf Schema.name, ← List.map_map]
  exact distinct.map fun _ _ => nameOf_inj.1

@[simp] theorem parent?_ofSchema (schema : Schema) :
    (ofSchema schema).parent? = some schema.name := by
  have written : (":" ++ schema.name).toList = ':' :: schema.name.toList := String.toList_append
  simp only [ofSchema, parent?, written, String.ofList_toList]

end DocsModule

namespace Registry

open DocsModule (nameOf)

/-! ## What a pass does -/

def documentation (schema : Schema) : String × Entry :=
  (nameOf schema.name, .docs (.ofSchema schema))

def conflict (schema : Schema) : RegistryError :=
  .docsConflict schema.name (nameOf schema.name)

def isFree (modules : NameMap Entry) (schema : Schema) : Bool :=
  !modules.contains (nameOf schema.name)

theorem isFree_iff {modules : NameMap Entry} {schema : Schema} :
    isFree modules schema = true ↔ modules.get? (nameOf schema.name) = none := by
  rw [isFree, Bool.not_eq_true', NameMap.contains_eq_false]

theorem not_isFree_iff {modules : NameMap Entry} {schema : Schema} :
    isFree modules schema = false ↔
      ∃ entry, modules.get? (nameOf schema.name) = some entry := by
  rw [isFree, Bool.not_eq_false', NameMap.contains_iff]

theorem get?_documented (modules : NameMap Entry) {schema other : Schema}
    (different : schema.name ≠ other.name) :
    (modules.extend [documentation other]).get? (nameOf schema.name) =
      modules.get? (nameOf schema.name) := by
  apply (NameMap.get?_insert ..).trans
  apply if_neg
  intro equal
  exact different (DocsModule.nameOf_inj.1 equal)

theorem deriveOne_of_free {derivation : Derivation} {schema : Schema}
    (free : isFree derivation.registry.modules schema = true) :
    deriveOne derivation (.ofSchema schema) = {
      derivation with
      registry := ⟨derivation.registry.modules.extend [documentation schema],
        schema.name :: derivation.registry.visited⟩
      created := derivation.created + 1 } := by
  simp only [deriveOne, DocsModule.name_ofSchema, isFree_iff.1 free, DocsModule.parent?_ofSchema,
    Option.getD_some]
  rfl

theorem deriveOne_of_taken {derivation : Derivation} {schema : Schema}
    (taken : isFree derivation.registry.modules schema = false)
    (unsettled : derivation.registry.modules.get? (nameOf schema.name) ≠
      some (.docs (.ofSchema schema))) :
    deriveOne derivation (.ofSchema schema) = {
      derivation with
      registry := ⟨derivation.registry.modules, schema.name :: derivation.registry.visited⟩
      errors := derivation.errors ++ [conflict schema] } := by
  rcases not_isFree_iff.1 taken with ⟨entry, found⟩
  have different : entry ≠ .docs (.ofSchema schema) := fun equal => unsettled (equal ▸ found)
  simp only [deriveOne, DocsModule.name_ofSchema, found, DocsModule.parent?_ofSchema,
    Option.getD_some, if_neg different]
  rfl

/-- A pass over modules with different names, none of which is documented yet: whether a name is
free can be told before the pass, since no module of the pass takes the name of another one's
documentation. -/
theorem foldl_deriveOne (schemas : List Schema) (derivation : Derivation)
    (distinct : (schemas.map Schema.name).Nodup)
    (unsettled : ∀ schema ∈ schemas, derivation.registry.modules.get? (nameOf schema.name) ≠
      some (.docs (.ofSchema schema))) :
    (schemas.map DocsModule.ofSchema).foldl deriveOne derivation = {
      registry := {
        modules := derivation.registry.modules.extend
          ((schemas.filter (isFree derivation.registry.modules)).map documentation)
        visited := (schemas.map Schema.name).reverse ++ derivation.registry.visited }
      created := derivation.created +
        (schemas.filter (isFree derivation.registry.modules)).length
      errors := derivation.errors ++
        (schemas.filter (!isFree derivation.registry.modules ·)).map conflict } := by
  induction schemas generalizing derivation with
  | nil => simp [NameMap.extend]
  | cons head tail induction =>
      rw [List.map_cons, List.nodup_cons] at distinct
      have unsettledTail := fun schema member => unsettled schema (List.mem_cons_of_mem _ member)
      have different : ∀ schema ∈ tail, schema.name ≠ head.name := by
        intro schema member equal
        exact distinct.1 (equal ▸ List.mem_map_of_mem member)
      rw [List.map_cons, List.foldl_cons]
      cases free : isFree derivation.registry.modules head with
      | true =>
          rw [deriveOne_of_free free]
          -- The name that is taken now is the one of the head's documentation, and no module of the
          -- tail asks for it.
          have same := fun schema member =>
            get?_documented derivation.registry.modules (different schema member)
          refine (induction _ distinct.2 ?_).trans ?_
          · intro schema member
            rw [same schema member]
            exact unsettledTail schema member
          · have sameFree : ∀ schema ∈ tail,
                isFree (derivation.registry.modules.extend [documentation head]) schema =
                  isFree derivation.registry.modules schema := by
              intro schema member
              simp only [isFree, NameMap.contains, same schema member]
            have sameTaken := fun schema member => congrArg not (sameFree schema member)
            rw [List.filter_congr sameFree, List.filter_congr sameTaken]
            simp [free, NameMap.extend, Nat.add_assoc, Nat.add_comm 1]
      | false =>
          rw [deriveOne_of_taken free (unsettled head List.mem_cons_self)]
          refine (induction _ distinct.2 ?_).trans ?_
          · exact unsettledTail
          · simp [free]

/-! ## Calls -/

inductive Call where
  | register (schema : Schema)
  | deriveDocs

/-- The registry after a call. A module that is refused leaves it as it was. -/
def perform (registry : Registry) : Call → Registry
  | .register schema =>
      match registry.register schema with
      | .ok larger => larger
      | .error _ => registry
  | .deriveDocs => registry.deriveDocs.registry

def after (registry : Registry) (calls : List Call) : Registry :=
  calls.foldl perform registry

/-- What holds of a registry whatever was called. -/
structure Coherent (registry : Registry) : Prop where
  /-- Every module is found under its own name. -/
  named : ∀ name entry, registry.modules.get? name = some entry → entry.name = name
  /-- Every documentation module was derived from a visited schema module, and is found under the
  name that follows from that one's. -/
  derived : ∀ name docs, registry.modules.get? name = some (.docs docs) →
    ∃ schema, docs = .ofSchema schema ∧ name = nameOf schema.name ∧
      registry.modules.get? schema.name = some (.schema schema) ∧
      schema.name ∈ registry.visited
  /-- Only schema modules are visited. -/
  visitable : ∀ name ∈ registry.visited,
    ∃ schema, registry.modules.get? name = some (.schema schema)
  /-- The name of its documentation is taken for every visited module. -/
  documented : ∀ name ∈ registry.visited, registry.modules.contains (nameOf name) = true

theorem coherent_empty : Coherent .empty where
  named _ _ found := by cases found
  derived _ _ found := by cases found
  visitable _ member := by cases member
  documented _ member := by cases member

/-! ## Registration -/

variable {registry larger : Registry} {schema : Schema}

theorem register_eq_ok :
    registry.register schema = .ok larger ↔
      registry.modules.get? schema.name = none ∧
      larger = ⟨registry.modules.extend [(schema.name, .schema schema)], registry.visited⟩ := by
  unfold register
  split
  next present =>
    rcases NameMap.contains_iff.1 present with ⟨entry, found⟩
    simp [found]
  next absent =>
    have free := NameMap.contains_eq_false.1 (Bool.eq_false_iff.2 absent)
    simp only [Except.ok.injEq, free, true_and]
    exact eq_comm

theorem get?_registered (absent : registry.modules.get? schema.name = none) {name : String}
    {entry : Entry} :
    (registry.modules.extend [(schema.name, .schema schema)]).get? name = some entry ↔
      name = schema.name ∧ entry = .schema schema ∨ registry.modules.get? name = some entry := by
  rw [NameMap.get?_extend _ (by simp) (by simp [absent]), List.mem_singleton, Prod.mk.injEq]

theorem Coherent.register (coherent : Coherent registry)
    (accepted : registry.register schema = .ok larger) : Coherent larger := by
  rcases register_eq_ok.1 accepted with ⟨absent, rfl⟩
  refine ⟨?named, ?derived, ?visitable, ?documented⟩
  case named =>
    intro name entry found
    rcases (get?_registered absent).1 found with ⟨rfl, rfl⟩ | old
    · rfl
    · exact coherent.named name entry old
  case derived =>
    intro name docs found
    rcases (get?_registered absent).1 found with ⟨-, impossible⟩ | old
    · cases impossible
    · rcases coherent.derived name docs old with ⟨parent, isDocs, isName, present, visited⟩
      exact ⟨parent, isDocs, isName, (get?_registered absent).2 (.inr present), visited⟩
  case visitable =>
    intro name visited
    rcases coherent.visitable name visited with ⟨parent, present⟩
    exact ⟨parent, (get?_registered absent).2 (.inr present)⟩
  case documented =>
    intro name visited
    rcases NameMap.contains_iff.1 (coherent.documented name visited) with ⟨entry, found⟩
    exact NameMap.contains_iff.2 ⟨entry, (get?_registered absent).2 (.inr found)⟩

/-! ## Schema modules of a coherent registry -/

theorem mem_entries {entry : Entry} :
    entry ∈ registry.entries ↔ ∃ name, registry.modules.get? name = some entry := by
  simp only [entries, NameMap.values, List.mem_map, Prod.exists, exists_eq_right,
    NameMap.mem_entries]

namespace Coherent

theorem mem_schemas (coherent : Coherent registry) :
    schema ∈ registry.schemas ↔
      registry.modules.get? schema.name = some (.schema schema) := by
  rw [schemas, List.mem_filterMap]
  constructor
  · rintro ⟨entry, member, isSchema⟩
    rcases mem_entries.1 member with ⟨name, found⟩
    cases entry with
    | schema module =>
        cases isSchema
        have named : schema.name = name := coherent.named name _ found
        rw [named]
        exact found
    | docs docs => cases isSchema
  · intro found
    exact ⟨.schema schema, mem_entries.2 ⟨_, found⟩, rfl⟩

theorem schemas_ascending (coherent : Coherent registry) :
    registry.schemas.Pairwise fun left right => left.name < right.name := by
  rw [schemas, entries, NameMap.values, List.filterMap_map, List.pairwise_filterMap]
  apply registry.modules.ascending.imp_of_mem
  rintro ⟨leftName, left⟩ ⟨rightName, right⟩ inLeft inRight below first isFirst second isSecond
  have leftNamed := coherent.named leftName left (NameMap.mem_entries.1 inLeft)
  have rightNamed := coherent.named rightName right (NameMap.mem_entries.1 inRight)
  cases left <;> cases right <;> simp_all [Entry.name]

theorem schemas_distinct (coherent : Coherent registry) :
    (registry.schemas.map Schema.name).Nodup := by
  apply List.pairwise_map.2
  apply coherent.schemas_ascending.imp
  intro left right below equal
  exact String.lt_irrefl _ (equal ▸ below)

theorem mem_pending (coherent : Coherent registry) :
    schema ∈ registry.pending ↔
      registry.modules.get? schema.name = some (.schema schema) ∧
        schema.name ∉ registry.visited := by
  simp [pending, coherent.mem_schemas]

theorem pending_ascending (coherent : Coherent registry) :
    registry.pending.Pairwise fun left right => left.name < right.name :=
  coherent.schemas_ascending.filter _

theorem pending_distinct (coherent : Coherent registry) :
    (registry.pending.map Schema.name).Nodup :=
  coherent.schemas_distinct.sublist (List.filter_sublist.map _)

/-- The documentation of a module that was not visited cannot be there already: it would have been
derived from a visited module, and that can only be the same one. -/
theorem undocumented (coherent : Coherent registry) (member : schema ∈ registry.pending)
    (docs : DocsModule) : registry.modules.get? (nameOf schema.name) ≠ some (.docs docs) := by
  intro found
  rcases coherent.derived _ _ found with ⟨parent, -, sameName, -, visited⟩
  have unvisited := (coherent.mem_pending.1 member).2
  exact unvisited (DocsModule.nameOf_inj.1 sameName ▸ visited)

/-! ## Passes -/

theorem deriveDocs_eq (coherent : Coherent registry) :
    registry.deriveDocs = {
      registry := {
        modules := registry.modules.extend
          ((registry.pending.filter (isFree registry.modules)).map documentation)
        visited := (registry.pending.map Schema.name).reverse ++ registry.visited }
      created := (registry.pending.filter (isFree registry.modules)).length
      errors := (registry.pending.filter (!isFree registry.modules ·)).map conflict } := by
  rw [deriveDocs, foldl_deriveOne _ _ coherent.pending_distinct fun schema member =>
    coherent.undocumented member _]
  simp

theorem created_distinct (coherent : Coherent registry) :
    (((registry.pending.filter (isFree registry.modules)).map documentation).map
      Prod.fst).Nodup := by
  rw [List.map_map]
  exact DocsModule.nodup_nameOf (coherent.pending_distinct.sublist (List.filter_sublist.map _))

theorem created_absent :
    ∀ entry ∈ (registry.pending.filter (isFree registry.modules)).map documentation,
      registry.modules.get? entry.1 = none := by
  intro entry member
  rcases List.mem_map.1 member with ⟨schema, inFree, rfl⟩
  exact isFree_iff.1 (List.mem_filter.1 inFree).2

theorem get?_deriveDocs (coherent : Coherent registry) {name : String} {entry : Entry} :
    registry.deriveDocs.registry.modules.get? name = some entry ↔
      (∃ schema ∈ registry.pending, isFree registry.modules schema = true ∧
        documentation schema = (name, entry)) ∨
      registry.modules.get? name = some entry := by
  rw [coherent.deriveDocs_eq, NameMap.get?_extend _ coherent.created_distinct created_absent]
  simp only [List.mem_map, List.mem_filter, and_assoc]

theorem mem_visited_deriveDocs (coherent : Coherent registry) {name : String} :
    name ∈ registry.deriveDocs.registry.visited ↔
      (∃ schema ∈ registry.pending, schema.name = name) ∨ name ∈ registry.visited := by
  rw [coherent.deriveDocs_eq]
  simp only [List.mem_append, List.mem_reverse, List.mem_map]

theorem deriveDocs (coherent : Coherent registry) :
    Coherent registry.deriveDocs.registry := by
  have kept {name : String} {entry : Entry} (found : registry.modules.get? name = some entry) :
      registry.deriveDocs.registry.modules.get? name = some entry :=
    coherent.get?_deriveDocs.2 (.inr found)
  refine ⟨?named, ?derived, ?visitable, ?documented⟩
  case named =>
    intro name entry found
    rcases coherent.get?_deriveDocs.1 found with ⟨schema, -, -, created⟩ | old
    · rcases Prod.mk.inj created with ⟨rfl, rfl⟩
      rfl
    · exact coherent.named name entry old
  case derived =>
    intro name docs found
    rcases coherent.get?_deriveDocs.1 found with ⟨schema, inPending, -, created⟩ | old
    · rcases Prod.mk.inj created with ⟨isName, isDocs⟩
      refine ⟨schema, (Entry.docs.inj isDocs).symm, isName.symm, ?_, ?_⟩
      · exact kept (coherent.mem_pending.1 inPending).1
      · exact coherent.mem_visited_deriveDocs.2 (.inl ⟨schema, inPending, rfl⟩)
    · rcases coherent.derived name docs old with ⟨parent, isDocs, isName, present, visited⟩
      exact ⟨parent, isDocs, isName, kept present, coherent.mem_visited_deriveDocs.2 (.inr visited)⟩
  case visitable =>
    intro name member
    rcases coherent.mem_visited_deriveDocs.1 member with ⟨schema, inPending, rfl⟩ | old
    · exact ⟨schema, kept (coherent.mem_pending.1 inPending).1⟩
    · rcases coherent.visitable name old with ⟨schema, present⟩
      exact ⟨schema, kept present⟩
  case documented =>
    intro name member
    apply NameMap.contains_iff.2
    rcases coherent.mem_visited_deriveDocs.1 member with ⟨schema, inPending, rfl⟩ | old
    · cases free : isFree registry.modules schema with
      | true => exact ⟨_, coherent.get?_deriveDocs.2 (.inl ⟨schema, inPending, free, rfl⟩)⟩
      | false =>
          rcases not_isFree_iff.1 free with ⟨entry, found⟩
          exact ⟨entry, kept found⟩
    · rcases NameMap.contains_iff.1 (coherent.documented name old) with ⟨entry, found⟩
      exact ⟨entry, kept found⟩

/-! ## Runs of calls -/

theorem perform (coherent : Coherent registry) (call : Call) :
    Coherent (registry.perform call) := by
  cases call with
  | register schema =>
      simp only [Registry.perform]
      split
      next larger accepted => exact coherent.register accepted
      next => exact coherent
  | deriveDocs => exact coherent.deriveDocs

theorem after (coherent : Coherent registry) (calls : List Call) :
    Coherent (registry.after calls) := by
  induction calls generalizing registry with
  | nil => exact coherent
  | cons call rest induction => exact induction (coherent.perform call)

theorem get?_perform (coherent : Coherent registry) {name : String} {entry : Entry}
    (found : registry.modules.get? name = some entry) (call : Call) :
    (registry.perform call).modules.get? name = some entry := by
  cases call with
  | register schema =>
      simp only [Registry.perform]
      split
      next larger accepted =>
        rcases register_eq_ok.1 accepted with ⟨absent, rfl⟩
        exact (get?_registered absent).2 (.inr found)
      next => exact found
  | deriveDocs => exact coherent.get?_deriveDocs.2 (.inr found)

theorem get?_after (coherent : Coherent registry) {name : String} {entry : Entry}
    (found : registry.modules.get? name = some entry) (calls : List Call) :
    (registry.after calls).modules.get? name = some entry := by
  induction calls generalizing registry with
  | nil => exact found
  | cons call rest induction =>
      exact induction (coherent.perform call) (coherent.get?_perform found call)

/-- A documentation module is not visited, now or later, and nothing is derived from it. -/
theorem childless (coherent : Coherent registry) {name : String} {docs : DocsModule}
    (found : registry.modules.get? name = some (.docs docs)) :
    name ∉ registry.visited ∧
      ∀ other child, registry.modules.get? other = some (.docs child) →
        child.parent? ≠ some name := by
  have notSchema (schema : Schema) : registry.modules.get? name ≠ some (.schema schema) := by
    intro present
    rw [found] at present
    cases present
  constructor
  · intro visited
    rcases coherent.visitable name visited with ⟨schema, present⟩
    exact notSchema schema present
  · intro other child isChild isParent
    rcases coherent.derived other child isChild with ⟨schema, rfl, -, present, -⟩
    rw [DocsModule.parent?_ofSchema] at isParent
    exact notSchema schema (Option.some.inj isParent ▸ present)

end Coherent

/-- From an empty registry every sequence of calls leads to a coherent one, and no later call
removes or replaces a module. So a documentation module never gets one of its own. -/
theorem after_coherent_and_kept (calls later : List Call) :
    let registry := empty.after calls
    let grown := registry.after later
    Coherent registry ∧
    (∀ name entry, registry.modules.get? name = some entry →
      grown.modules.get? name = some entry) ∧
    ∀ name docs, registry.modules.get? name = some (.docs docs) →
      name ∉ grown.visited ∧
        ∀ other child, grown.modules.get? other = some (.docs child) →
          child.parent? ≠ some name := by
  intro registry grown
  have coherent : Coherent registry := coherent_empty.after calls
  have kept (name : String) (entry : Entry)
      (found : registry.modules.get? name = some entry) :
      grown.modules.get? name = some entry :=
    coherent.get?_after found later
  refine ⟨coherent, kept, ?_⟩
  intro name docs found
  exact (coherent.after later).childless (kept name _ found)

end Registry

end SchemaBuild
