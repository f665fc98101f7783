import SchemaBuild.Proofs.Selection.Refusals
import SchemaBuild.Proofs.Starlark.Loads

/-!
# Declarations in another order

Which modules are taken depends on the order of the declarations only where two of them clash. If
all are taken none clash, and then the registry and the plans hold the same whatever the order was.
So do the files that list modules by name; the BUILD file keeps the order of the declarations.
-/

namespace SchemaBuild

/-! ## BUILD files -/

namespace Starlark

variable {left right : List Rule}

theorem renderLoads_perm (perm : left.Perm right) : renderLoads left = renderLoads right :=
  renderLoads_congr fun _ _ => perm.mem_iff

end Starlark

namespace Selection

/-! ## Modules that do not clash -/

def Separate (left right : Schema) : Prop :=
  (Target.namesOf left.name).Disjoint (Target.namesOf right.name)

theorem Separate.symm {left right : Schema} (separate : Separate left right) :
    Separate right left := by
  intro target ofRight ofLeft
  exact separate ofLeft ofRight

theorem Separate.name_ne {left right : Schema} (separate : Separate left right) :
    left.name ≠ right.name := by
  intro equal
  have ofLeft : left.name ∈ Target.namesOf left.name := List.mem_cons_self
  exact separate ofLeft (equal ▸ ofLeft)

theorem distinct_of_separate {schemas : List Schema} (separate : schemas.Pairwise Separate) :
    (schemas.map Schema.name).Nodup := by
  apply List.pairwise_map.2
  apply separate.imp
  intro left right apart
  exact apart.name_ne

theorem free_iff {schemas : List Schema} {schema : Schema} :
    Free schemas schema ↔ ∀ other ∈ schemas, Separate other schema := by
  constructor
  · intro free other member target ofOther ofSchema
    exact free target ofSchema other.name ⟨other, member, rfl, ofOther⟩
  · intro separate target ofSchema owner
    rintro ⟨other, member, -, ofOther⟩
    exact separate other member ofOther ofSchema

def schemasOf (declarations : List Declaration) : List Schema :=
  declarations.filterMap fun declaration => declaration.check.toOption

structure Clear (selection : Selection) (declarations : List Declaration) : Prop where
  wellFormed : ∀ declaration ∈ declarations, ∃ schema, declaration.check = .ok schema
  separate : (selection.schemas ++ schemasOf declarations).Pairwise Separate

theorem Clear.perm {selection : Selection} {left right : List Declaration}
    (clear : Clear selection left) (perm : right.Perm left) : Clear selection right := by
  refine ⟨?_, ?_⟩
  · intro declaration member
    exact clear.wellFormed declaration (perm.mem_iff.1 member)
  · have schemas := (perm.filterMap fun declaration => declaration.check.toOption).append_left
      selection.schemas
    exact (schemas.pairwise_iff Separate.symm).2 clear.separate

/-! ## Modules that are all taken -/

def enter (root : Path) (selection : Selection) (schema : Schema) : Selection :=
  selection.accept root schema { selection.registry with
    modules := selection.registry.modules.insert schema.name (.schema schema) }

variable {root : Path} {selection : Selection} {declaration : Declaration} {schema : Schema}

theorem taken_iff (consistent : Consistent selection) (checked : declaration.check = .ok schema) :
    (selection.verdict root declaration).taken = true ↔ Free selection.schemas schema := by
  have decided := decided_of_ok root checked consistent
  rw [verdict, decide_eq_true_iff]
  by_cases free : Free selection.schemas schema
  · simp [(decided.accepted schema checked free).1, free]
  · simp [(decided.rejected schema checked free).1, free]

theorem declare_of_free (root : Path) (consistent : Consistent selection)
    (checked : declaration.check = .ok schema) (free : Free selection.schemas schema) :
    selection.declare root declaration = selection.enter root schema := by
  rw [declare, checked]
  exact add_of_free root consistent free

theorem clear_cons (root : Path) (checked : declaration.check = .ok schema)
    {rest : List Declaration} :
    Clear selection (declaration :: rest) ↔
      Free selection.schemas schema ∧ Clear (selection.enter root schema) rest := by
  have schemas : selection.schemas ++ schemasOf (declaration :: rest) =
      (selection.enter root schema).schemas ++ schemasOf rest := by
    rw [enter, schemas_accept, schemasOf, List.filterMap_cons, checked, List.append_assoc]
    rfl
  constructor
  · intro clear
    refine ⟨?_, ?_, schemas ▸ clear.separate⟩
    · have apart := clear.separate
      rw [schemas, enter, schemas_accept, List.append_assoc] at apart
      apply free_iff.2
      intro other member
      exact (List.pairwise_append.1 apart).2.2 other member schema List.mem_cons_self
    · intro other member
      exact clear.wellFormed other (List.mem_cons_of_mem _ member)
  · rintro ⟨-, clear⟩
    refine ⟨?_, schemas ▸ clear.separate⟩
    intro other member
    rcases List.mem_cons.1 member with rfl | inRest
    · exact ⟨schema, checked⟩
    · exact clear.wellFormed other inRest

/-- All declarations are taken exactly if none is malformed and no two clash, which does not depend
on their order. -/
theorem all_taken_iff (consistent : Consistent selection) (declarations : List Declaration) :
    (∀ verdict ∈ selection.verdicts root declarations, verdict.taken = true) ↔
      Clear selection declarations := by
  induction declarations generalizing selection with
  | nil =>
      constructor
      · intro _
        refine ⟨?_, ?_⟩
        · intro declaration member
          cases member
        · rw [schemasOf, List.filterMap_nil, List.append_nil]
          exact consistent.separate
      · intro _ verdict member
        cases member
  | cons declaration rest induction =>
      rw [verdicts, List.forall_mem_cons]
      cases checked : declaration.check with
      | error error =>
          have refused : (selection.verdict root declaration).taken = false := by
            have kept := ((decided_of_error root checked selection).malformed error checked).1
            simp [verdict, kept]
          constructor
          · rintro ⟨taken, -⟩
            rw [refused] at taken
            cases taken
          · intro clear
            rcases clear.wellFormed declaration List.mem_cons_self with ⟨schema, isSchema⟩
            rw [checked] at isSchema
            cases isSchema
      | ok schema =>
          -- A module that is taken goes from the declarations to the modules that are there. All
          -- modules together stay the same, and with them the condition.
          rw [taken_iff consistent checked, clear_cons root checked]
          apply and_congr_right
          intro free
          rw [← declare_of_free root consistent checked free]
          exact induction (consistent.declare root declaration)

theorem foldl_declare_of_clear (consistent : Consistent selection)
    {declarations : List Declaration} (clear : Clear selection declarations) :
    declarations.foldl (declare root) selection =
      (schemasOf declarations).foldl (enter root) selection := by
  induction declarations generalizing selection with
  | nil => rfl
  | cons declaration rest induction =>
      rcases clear.wellFormed declaration List.mem_cons_self with ⟨schema, checked⟩
      rcases (clear_cons root checked).1 clear with ⟨free, clearRest⟩
      have next := declare_of_free root consistent checked free
      have schemas : schemasOf (declaration :: rest) = schema :: schemasOf rest := by
        rw [schemasOf, List.filterMap_cons, checked]
        rfl
      rw [schemas, List.foldl_cons, List.foldl_cons, ← next]
      exact induction (consistent.declare root declaration) (next ▸ clearRest)

/-! ## What is held of modules that are all taken -/

def registered (schema : Schema) : String × Entry :=
  (schema.name, .schema schema)

def planned? (root : Path) (schema : Schema) : Option (String × Plan) :=
  (schema.plan root).toOption.map fun plan => (schema.name, plan)

def reserved (schema : Schema) : List (String × String) :=
  (Target.namesOf schema.name).map (·, schema.name)

theorem enter_eq (root : Path) (selection : Selection) (schema : Schema) :
    selection.enter root schema = {
      registry := ⟨selection.registry.modules.extend [registered schema],
        selection.registry.visited⟩
      plans := selection.plans.extend (planned? root schema).toList
      schemas := selection.schemas ++ [schema]
      owners := selection.owners.extend (reserved schema)
      failures := selection.failures ++ planFailures root schema } := by
  unfold enter accept planned? planFailures
  cases schema.plan root <;>
    simp [fail, reserved, registered, NameMap.extend, List.foldl_map, Except.toOption]

theorem foldl_enter (root : Path) (selection : Selection) (schemas : List Schema) :
    schemas.foldl (enter root) selection = {
      registry := ⟨selection.registry.modules.extend (schemas.map registered),
        selection.registry.visited⟩
      plans := selection.plans.extend (schemas.filterMap (planned? root))
      schemas := selection.schemas ++ schemas
      owners := selection.owners.extend (schemas.flatMap reserved)
      failures := selection.failures ++ schemas.flatMap (planFailures root) } := by
  induction schemas generalizing selection with
  | nil => simp [NameMap.extend]
  | cons schema rest induction =>
      have plans : (schema :: rest).filterMap (planned? root) =
          (planned? root schema).toList ++ rest.filterMap (planned? root) := by
        rw [List.filterMap_cons]
        cases planned? root schema <;> rfl
      rw [List.foldl_cons, induction, enter_eq, plans]
      simp [NameMap.extend, List.foldl_append]

theorem planned_distinct (root : Path) {schemas : List Schema}
    (separate : schemas.Pairwise Separate) :
    ((schemas.filterMap (planned? root)).map Prod.fst).Nodup := by
  have named (schema : Schema) (entry : String × Plan)
      (isPlan : planned? root schema = some entry) : entry.1 = schema.name := by
    rcases Option.map_eq_some_iff.1 isPlan with ⟨plan, -, rfl⟩
    rfl
  apply List.pairwise_map.2
  apply List.pairwise_filterMap.2
  apply separate.imp
  intro left right apart first isFirst second isSecond
  rw [named left first isFirst, named right second isSecond]
  exact apart.name_ne

structure Reordered (left right : Selection) : Prop where
  registry : left.registry = right.registry
  plans : left.plans = right.plans
  schemas : left.schemas.Perm right.schemas

theorem reordered_foldl_enter {left right : List Schema} (perm : left.Perm right)
    (separate : left.Pairwise Separate) :
    Reordered (left.foldl (enter root) {}) (right.foldl (enter root) {}) := by
  have names : ((left.map registered).map Prod.fst).Nodup := by
    rw [List.map_map]
    exact distinct_of_separate separate
  have registry := NameMap.extend_perm .empty (perm.map registered) names
  have plans := NameMap.extend_perm .empty (perm.filterMap _) (planned_distinct root separate)
  rw [foldl_enter, foldl_enter]
  exact ⟨congrArg (Registry.mk · _) registry, plans, perm.append_left _⟩

end Selection

/-! ## Manifests that are taken as a whole -/

def ModuleError.isDocsConflict : ModuleError → Bool
  | .registry (.docsConflict _ _) => true
  | _ => false

namespace Selection

theorem docsConflicts_foldl_enter (root : Path) (schemas : List Schema) :
    (schemas.foldl (enter root) {}).failures.filter ModuleError.isDocsConflict = [] := by
  rw [foldl_enter, List.nil_append]
  apply List.filter_eq_nil_iff.2
  intro error member
  rcases List.mem_flatMap.1 member with ⟨schema, -, reported⟩
  unfold planFailures at reported
  split at reported
  · cases reported
  · rcases List.mem_singleton.1 reported with rfl
    simp [ModuleError.isDocsConflict]

end Selection

namespace Manifest

def AllTaken (manifest : Manifest) (root : Path) : Prop :=
  ∀ verdict ∈ manifest.verdicts root, verdict.taken = true

instance (manifest : Manifest) (root : Path) : Decidable (manifest.AllTaken root) :=
  inferInstanceAs (Decidable (∀ verdict ∈ manifest.verdicts root, verdict.taken = true))

def rules (manifest : Manifest) (root : Path) : List Starlark.Rule :=
  (Selection.ofManifest manifest root).schemas.flatMap Schema.rules

theorem bazel_ofManifest (manifest : Manifest) (root : Path) :
    (BuildFiles.ofManifest manifest root).bazel = Starlark.renderFile (manifest.rules root) :=
  rfl

variable {manifest other : Manifest} {root : Path}

theorem allTaken_iff : manifest.AllTaken root ↔ Selection.Clear {} manifest.declarations :=
  Selection.all_taken_iff Selection.consistent_empty manifest.declarations

theorem AllTaken.perm (all : manifest.AllTaken root)
    (perm : other.declarations.Perm manifest.declarations) : other.AllTaken root :=
  allTaken_iff.2 ((allTaken_iff.1 all).perm perm)

theorem AllTaken.ofManifest_eq (all : manifest.AllTaken root) :
    Selection.ofManifest manifest root =
      (Selection.schemasOf manifest.declarations).foldl (Selection.enter root) {} :=
  Selection.foldl_declare_of_clear Selection.consistent_empty (allTaken_iff.1 all)

theorem AllTaken.reordered (all : manifest.AllTaken root)
    (perm : other.declarations.Perm manifest.declarations) :
    Selection.Reordered (Selection.ofManifest other root)
      (Selection.ofManifest manifest root) := by
  have schemas : (Selection.schemasOf other.declarations).Perm
      (Selection.schemasOf manifest.declarations) := perm.filterMap _
  have allOther := all.perm perm
  rw [all.ofManifest_eq, allOther.ofManifest_eq]
  exact Selection.reordered_foldl_enter schemas (allTaken_iff.1 allOther).separate

theorem AllTaken.docsConflicts (all : manifest.AllTaken root) :
    (BuildFiles.ofManifest manifest root).failures.filter ModuleError.isDocsConflict =
      (manifest.conflicts root).filter ModuleError.isDocsConflict := by
  have none := Selection.docsConflicts_foldl_enter root
    (Selection.schemasOf manifest.declarations)
  rw [← all.ofManifest_eq] at none
  simp only [BuildFiles.ofManifest, List.filter_append, none, List.nil_append, conflicts]

/-- If all modules are taken, they are in any order of the declarations. The build statements, the
list of modules and the conflicts of documentation modules stay as they are; the BUILD file loads
the same and has the same rules in another order. -/
theorem buildFiles_perm (manifest : Manifest) (root : Path) (all : manifest.AllTaken root)
    (permuted : List Declaration) (perm : permuted.Perm manifest.declarations) :
    let other : Manifest := { manifest with declarations := permuted }
    let files := BuildFiles.ofManifest manifest root
    let otherFiles := BuildFiles.ofManifest other root
    other.AllTaken root ∧
    otherFiles.ninja = files.ninja ∧
    otherFiles.modules = files.modules ∧
    otherFiles.failures.filter ModuleError.isDocsConflict =
      files.failures.filter ModuleError.isDocsConflict ∧
    files.bazel = "# Generated by xsd-config\n" ++ Starlark.renderLoads (manifest.rules root) ++
      String.join ((manifest.rules root).map fun rule => "\n" ++ rule.render ++ "\n") ∧
    otherFiles.bazel = "# Generated by xsd-config\n" ++ Starlark.renderLoads (other.rules root) ++
      String.join ((other.rules root).map fun rule => "\n" ++ rule.render ++ "\n") ∧
    Starlark.renderLoads (other.rules root) = Starlark.renderLoads (manifest.rules root) ∧
    ((other.rules root).map Starlark.Rule.render).Perm
      ((manifest.rules root).map Starlark.Rule.render) := by
  intro other files otherFiles
  have permOther : other.declarations.Perm manifest.declarations := perm
  have allOther : other.AllTaken root := all.perm permOther
  rcases all.reordered permOther with ⟨registry, plans, schemas⟩
  have rules : (other.rules root).Perm (manifest.rules root) := schemas.flatMap_right _
  refine ⟨allOther, ?ninja, ?modules, ?conflicts, manifest.bazel_ofManifest root,
    other.bazel_ofManifest root, Starlark.renderLoads_perm rules, rules.map _⟩
  case ninja =>
    have sameToolchain : other.toolchain = manifest.toolchain := rfl
    simp only [otherFiles, files, BuildFiles.ofManifest, plans, sameToolchain]
  case modules => simp only [otherFiles, files, BuildFiles.ofManifest, plans, registry]
  case conflicts =>
    have sameConflicts : other.conflicts root = manifest.conflicts root := by
      rw [conflicts, conflicts, registry]
    rw [all.docsConflicts, allOther.docsConflicts, sameConflicts]

def crossing : Manifest where
  version := 1
  toolchainKeys := none
  declarations := [
    { name := "foo", srcs := ["foo.xsd"], packageName := some "foo" },
    { name := "foo-docs", srcs := ["foo.xsd"], packageName := some "foo" },
    { name := "bar", srcs := ["bar.xsd"] }]

theorem crossing_reversed :
    let other : Manifest := { crossing with declarations := crossing.declarations.reverse }
    crossing.AllTaken ⟨"gen"⟩ ∧ other.AllTaken ⟨"gen"⟩ ∧
    (BuildFiles.ofManifest other ⟨"gen"⟩).ninja =
      (BuildFiles.ofManifest crossing ⟨"gen"⟩).ninja ∧
    (BuildFiles.ofManifest other ⟨"gen"⟩).failures = [
      .property ⟨"bar", .packageMissing⟩, .registry (.docsConflict "foo" "foo-docs")] := by
  have all : crossing.AllTaken ⟨"gen"⟩ := by decide +kernel
  have general := buildFiles_perm crossing ⟨"gen"⟩ all crossing.declarations.reverse
    crossing.declarations.reverse_perm
  exact ⟨all, general.1, general.2.1, by decide +kernel⟩

end Manifest

end SchemaBuild
