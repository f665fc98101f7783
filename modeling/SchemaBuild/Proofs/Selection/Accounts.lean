import SchemaBuild.Proofs.Registry.Passes
import SchemaBuild.Proofs.Selection.Permutations
import SchemaBuild.Proofs.Text.Utf8

/-!
# What is reported of a manifest

Every declaration is accounted for: its module is taken, or one error says why not. What is taken of
all declarations determines the registry and the plans, and so the conflicts that the pass over the
documentation modules adds to the report.
-/

namespace SchemaBuild

namespace Selection

/-! ## One declaration -/

/-- Which module is taken for a declaration, after the given modules were taken, and what is
reported of it. -/
inductive Reported (earlier : List Schema) (declaration : Declaration) :
    Option Schema → List ModuleError → Prop
  | malformed {error : PropertyError} (checked : declaration.check = .error error) :
      Reported earlier declaration none [.property error]
  | duplicate {schema : Schema} (checked : declaration.check = .ok schema)
      (declared : Declared earlier schema.name) :
      Reported earlier declaration none [.registry (.duplicate schema.name)]
  | conflict {schema : Schema} {target owner : String} (checked : declaration.check = .ok schema)
      (undeclared : ¬Declared earlier schema.name) (first : FirstReserved earlier schema target)
      (reserves : Reserves earlier target owner) :
      Reported earlier declaration none [.registry (.targetConflict schema.name target owner)]
  | unplanned {schema : Schema} (checked : declaration.check = .ok schema)
      (free : Free earlier schema) (unnamed : schema.package? = none) :
      Reported earlier declaration (some schema) [.property ⟨schema.name, .packageMissing⟩]
  | planned {schema : Schema} {package : String} (checked : declaration.check = .ok schema)
      (free : Free earlier schema) (named : schema.package? = some package) :
      Reported earlier declaration (some schema) []

variable {root : Path} {selection : Selection} {declaration : Declaration} {schema : Schema}

theorem reported_of_free {earlier : List Schema} (root : Path)
    (checked : declaration.check = .ok schema) (free : Free earlier schema) :
    Reported earlier declaration (some schema) (planFailures root schema) := by
  unfold planFailures Schema.plan
  cases named : schema.package? with
  | none => exact .unplanned checked free named
  | some package => exact .planned checked free named

theorem declare_reported (root : Path) (consistent : Consistent selection)
    (declaration : Declaration) :
    (∃ error, Reported selection.schemas declaration none [error] ∧
      selection.declare root declaration = selection.fail error) ∨
    ∃ schema, Reported selection.schemas declaration (some schema) (planFailures root schema) ∧
      selection.declare root declaration = selection.enter root schema := by
  cases checked : declaration.check with
  | error error =>
      left
      refine ⟨_, .malformed checked, ?_⟩
      rw [declare, checked]
  | ok schema =>
      by_cases free : Free selection.schemas schema
      · right
        exact ⟨schema, reported_of_free root checked free,
          declare_of_free root consistent checked free⟩
      · left
        have added : selection.declare root declaration = selection.add root schema := by
          rw [declare, checked]
        rw [added]
        by_cases declared : Declared selection.schemas schema.name
        · exact ⟨_, .duplicate checked declared, add_of_declared root consistent declared⟩
        · rcases add_of_reserved root consistent declared free with
            ⟨target, owner, equal, first, reserves⟩
          exact ⟨_, .conflict checked declared first reserves, equal⟩

/-! ## All declarations -/

/-- The modules that are taken for declarations, after the given ones, and what is reported of them,
both in the order of the declarations. -/
inductive Reports : List Schema → List Declaration → List Schema → List ModuleError → Prop
  | none (earlier : List Schema) : Reports earlier [] [] []
  | next {earlier later : List Schema} {declaration : Declaration} {rest : List Declaration}
      {taken : Option Schema} {errors more : List ModuleError}
      (reported : Reported earlier declaration taken errors)
      (reports : Reports (earlier ++ taken.toList) rest later more) :
      Reports earlier (declaration :: rest) (taken.toList ++ later) (errors ++ more)

/-- Failures that were reported before have no part in what is taken. -/
theorem foldl_enter_fail (root : Path) (selection : Selection) (error : ModuleError)
    (schemas : List Schema) (failures : List ModuleError) :
    (schemas.foldl (enter root) (selection.fail error)).reporting failures =
      (schemas.foldl (enter root) selection).reporting failures := by
  rw [foldl_enter, foldl_enter]
  rfl

theorem reports_foldl (root : Path) (declarations : List Declaration)
    (consistent : Consistent selection) :
    ∃ taken errors, Reports selection.schemas declarations taken errors ∧
      declarations.foldl (declare root) selection =
        (taken.foldl (enter root) selection).reporting (selection.failures ++ errors) := by
  induction declarations generalizing selection with
  | nil =>
      refine ⟨[], [], .none _, ?_⟩
      rw [List.append_nil]
      rfl
  | cons declaration rest induction =>
      rcases induction (consistent.declare root declaration) with ⟨later, more, reports, equal⟩
      rw [List.foldl_cons, equal]
      rcases declare_reported root consistent declaration with
        ⟨error, reported, declared⟩ | ⟨schema, reported, declared⟩
      · rw [declared] at reports ⊢
        refine ⟨later, error :: more, ?_, ?_⟩
        · exact .next reported (by simpa [fail] using reports)
        · rw [foldl_enter_fail]
          simp [fail]
      · rw [declared] at reports ⊢
        refine ⟨schema :: later, planFailures root schema ++ more, ?_, ?_⟩
        · exact .next reported (by simpa [enter] using reports)
        · simp [enter]

/-! ## What is taken of a manifest -/

theorem separate_ofManifest (manifest : Manifest) (root : Path) :
    (ofManifest manifest root).schemas.Pairwise Separate := by
  rw [← upTo_length]
  exact (consistent_upTo manifest root _).separate

/-- The modules that are taken determine everything else but the failures. -/
theorem ofManifest_eq (manifest : Manifest) (root : Path) :
    ofManifest manifest root =
        ((ofManifest manifest root).schemas.foldl (enter root) {}).reporting
          (ofManifest manifest root).failures ∧
      Reports [] manifest.declarations (ofManifest manifest root).schemas
        (ofManifest manifest root).failures := by
  rcases reports_foldl root manifest.declarations consistent_empty with
    ⟨taken, errors, reports, equal⟩
  have isManifest : ofManifest manifest root = _ := equal
  have schemas : (ofManifest manifest root).schemas = taken := by
    rw [isManifest, foldl_enter]
    rfl
  have failures : (ofManifest manifest root).failures = errors := by
    rw [isManifest]
    rfl
  rw [schemas, failures]
  exact ⟨equal, reports⟩

theorem registry_ofManifest (manifest : Manifest) (root : Path) :
    (ofManifest manifest root).registry =
      ⟨NameMap.empty.extend ((ofManifest manifest root).schemas.map registered), []⟩ := by
  rw [(ofManifest_eq manifest root).1, foldl_enter]
  rfl

theorem plans_ofManifest (manifest : Manifest) (root : Path) :
    (ofManifest manifest root).plans =
      NameMap.empty.extend ((ofManifest manifest root).schemas.filterMap (planned? root)) := by
  rw [(ofManifest_eq manifest root).1, foldl_enter]
  rfl

/-! ## The registry before and after the pass -/

section

variable {schemas : List Schema}

theorem get?_extend_registered (distinct : (schemas.map Schema.name).Nodup) {name : String}
    {entry : Entry} :
    (NameMap.empty.extend (schemas.map registered)).get? name = some entry ↔
      ∃ schema ∈ schemas, schema.name = name ∧ entry = .schema schema := by
  have names : ((schemas.map registered).map Prod.fst).Nodup := by
    rw [List.map_map]
    exact distinct
  rw [NameMap.get?_extend _ names (fun _ _ => rfl), NameMap.get?_empty, List.mem_map]
  simp [registered, eq_comm]

theorem coherent_registered (distinct : (schemas.map Schema.name).Nodup) :
    Registry.Coherent ⟨NameMap.empty.extend (schemas.map registered), []⟩ where
  named name entry found := by
    rcases (get?_extend_registered distinct).1 found with ⟨schema, -, named, rfl⟩
    exact named
  derived name docs found := by
    rcases (get?_extend_registered distinct).1 found with ⟨schema, -, -, isSchema⟩
    cases isSchema
  visitable name visited := by cases visited
  documented name visited := by cases visited

end

theorem coherent_ofManifest (manifest : Manifest) (root : Path) :
    Registry.Coherent (ofManifest manifest root).registry := by
  rw [registry_ofManifest]
  exact coherent_registered (distinct_of_separate (separate_ofManifest manifest root))

theorem get?_registry (manifest : Manifest) (root : Path) {name : String} {entry : Entry} :
    (ofManifest manifest root).registry.modules.get? name = some entry ↔
      ∃ schema ∈ (ofManifest manifest root).schemas,
        schema.name = name ∧ entry = .schema schema := by
  have distinct := distinct_of_separate (separate_ofManifest manifest root)
  rw [← get?_extend_registered distinct, registry_ofManifest]

theorem schemas_registry_perm (manifest : Manifest) (root : Path) :
    (ofManifest manifest root).registry.schemas.Perm (ofManifest manifest root).schemas := by
  have coherent := coherent_ofManifest manifest root
  have distinct := distinct_of_separate (separate_ofManifest manifest root)
  apply (List.perm_ext_iff_of_nodup coherent.schemas_nodup (List.Nodup.of_map _ distinct)).2
  intro schema
  rw [coherent.mem_schemas, get?_registry]
  constructor
  · rintro ⟨other, member, -, isSchema⟩
    rcases Entry.schema.inj isSchema with rfl
    exact member
  · intro member
    exact ⟨schema, member, rfl, rfl⟩

theorem settles_ofManifest (manifest : Manifest) (root : Path) :
    Registry.Settles (ofManifest manifest root).registry (ofManifest manifest root).schemas
      (ofManifest manifest root).registry.deriveDocs := by
  have coherent := coherent_ofManifest manifest root
  apply coherent.settles
  have noneVisited : (ofManifest manifest root).registry.visited = [] := by
    rw [registry_ofManifest]
  have all : (ofManifest manifest root).registry.pending =
      (ofManifest manifest root).registry.schemas := by
    apply List.filter_eq_self.2
    intro schema _
    simp [noneVisited]
  rw [all]
  exact schemas_registry_perm manifest root

end Selection

/-- The report on a manifest lists, in the order of the declarations, one error for each that is
left out and one for each module that has no plan, and behind them, by the bytes of the parents, one
conflict for each module that is taken beside a module with the name of its documentation. -/
theorem failures_account_for_all (manifest : Manifest) (root : Path) :
    let taken := (Selection.ofManifest manifest root).schemas
    ∃ (errors : List ModuleError) (parents : List String),
      Selection.Reports [] manifest.declarations taken errors ∧
      (BuildFiles.ofManifest manifest root).failures =
        errors ++ parents.map (fun parent =>
          ModuleError.registry (.docsConflict parent (DocsModule.nameOf parent))) ∧
      parents.Pairwise (fun left right => Bytes.ofString left < Bytes.ofString right) ∧
      ∀ parent, parent ∈ parents ↔
        Selection.Declared taken parent ∧
          Selection.Declared taken (DocsModule.nameOf parent) := by
  intro taken
  rcases (Selection.settles_ofManifest manifest root).conflicts with
    ⟨parents, isErrors, ascending, isParent⟩
  refine ⟨(Selection.ofManifest manifest root).failures, parents,
    (Selection.ofManifest_eq manifest root).2, ?failures, ?ascending, ?parents⟩
  case failures =>
    simp only [BuildFiles.ofManifest, isErrors, List.map_map]
    rfl
  case ascending =>
    apply ascending.imp
    intro left right below
    exact Bytes.ofString_lt below
  case parents =>
    intro parent
    rw [isParent]
    apply and_congr_right
    intro _
    simp only [Selection.get?_registry]
    constructor
    · rintro ⟨other, schema, member, named, -⟩
      exact ⟨schema, member, named⟩
    · rintro ⟨schema, member, named⟩
      exact ⟨schema, schema, member, named, rfl⟩

end SchemaBuild
