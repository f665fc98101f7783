import SchemaBuild.Proofs.Footprints
import SchemaBuild.Proofs.Selection.Accounts

/-!
# Build files that agree

The three build files are made from three stores: the plans by name, the registry with the
documentation modules between the schema modules, and the list of modules in the order in which they
were taken. All of them follow from that list, so what the files say and the counts agree.
-/

namespace SchemaBuild

/-! ## Reading a list of modules -/

namespace Json

def member? (name : String) : Json → Option Json
  | .object members => members.lookup name
  | _ => none

def items : Json → List Json
  | .array items => items
  | _ => []

theorem strings_injective : Function.Injective strings := by
  intro left right equal
  apply List.map_injective_iff.2 _ (Json.array.inj equal)
  intro first second same
  exact Json.string.inj same

end Json

namespace ModuleList

def isKind (kind : String) (entry : Json) : Bool :=
  match entry.member? "type" with
  | some (.string text) => text = kind
  | _ => false

/-- The actions of an entry. Entries of documentation modules have none. -/
def actionsOf (entry : Json) : List Json :=
  (entry.member? "actions").elim [] Json.items

theorem paths_injective : Function.Injective paths := by
  intro left right equal
  apply List.map_injective_iff.2 _ (Json.strings_injective equal)
  intro first second same
  cases first
  cases second
  exact congrArg Path.mk same

theorem action_injective : Function.Injective action := by
  have language : Function.Injective Language.name := by
    intro left right equal
    cases left <;> cases right <;> first | rfl | simp [Language.name] at equal
  have text : Function.Injective Path.text := by
    intro left right equal
    cases left
    cases right
    exact congrArg Path.mk equal
  intro left right equal
  simp only [action, Json.object.injEq, List.cons.injEq, Prod.mk.injEq, Json.string.injEq,
    true_and, and_true, language.eq_iff, text.eq_iff, paths_injective.eq_iff,
    Json.strings_injective.eq_iff] at equal
  cases left
  cases right
  simp_all

/-! ## Entries of the two kinds -/

@[simp] theorem isKind_schema (kind : String) (module : Schema) (plan? : Option Plan) :
    isKind kind (schema module plan?) = decide ("xsd_config" = kind) :=
  rfl

@[simp] theorem isKind_docs (kind : String) (module : DocsModule) :
    isKind kind (docs module) = decide ("droidstubs" = kind) :=
  rfl

@[simp] theorem actionsOf_docs (module : DocsModule) : actionsOf (docs module) = [] :=
  rfl

theorem actionsOf_schema (module : Schema) (plan? : Option Plan) :
    actionsOf (schema module plan?) = (plan?.elim [] Plan.actions).map action := by
  cases plan? <;> rfl

variable (plans : NameMap Plan) (registry : Registry)

theorem filter_isKind_schema :
    (registry.entries.map (entry plans)).filter (isKind "xsd_config") =
      registry.schemas.map fun module => schema module (plans.get? module.name) := by
  rw [Registry.schemas]
  induction registry.entries with
  | nil => rfl
  | cons head rest induction => cases head <;> simp [entry, induction]

theorem countP_isKind_docs :
    (registry.entries.map (entry plans)).countP (isKind "droidstubs") = registry.docs.length := by
  rw [Registry.docs]
  induction registry.entries with
  | nil => rfl
  | cons head rest induction => cases head <;> simp [entry, induction]

theorem flatMap_actionsOf :
    (registry.entries.map (entry plans)).flatMap actionsOf =
      registry.schemas.flatMap fun module =>
        ((plans.get? module.name).elim [] Plan.actions).map action := by
  rw [Registry.schemas]
  induction registry.entries with
  | nil => rfl
  | cons head rest induction => cases head <;> simp [entry, actionsOf_schema, induction]

end ModuleList

theorem Registry.size_modules (registry : Registry) :
    registry.modules.size = registry.schemas.length + registry.docs.length := by
  have entries : registry.modules.size = registry.entries.length :=
    (List.length_map _).symm
  rw [entries, Registry.schemas, Registry.docs]
  induction registry.entries with
  | nil => rfl
  | cons head rest induction => cases head <;> simp [induction] <;> omega

theorem Schema.length_rules (schema : Schema) : schema.rules.length = 3 := by
  have names := congrArg List.length schema.names_rules
  rw [List.length_map] at names
  exact names

namespace Selection

/-! ## Plans -/

theorem planned?_isSome (root : Path) (schema : Schema) :
    (planned? root schema).isSome = schema.package?.isSome := by
  rw [planned?, Option.isSome_map, Schema.plan]
  cases schema.package? <;> rfl

variable (manifest : Manifest) (root : Path)

theorem entries_plans_perm :
    (ofManifest manifest root).plans.entries.Perm
      ((ofManifest manifest root).schemas.filterMap (planned? root)) := by
  have distinct := planned_distinct root (separate_ofManifest manifest root)
  have entries := NameMap.entries_extend_perm .empty distinct (fun _ _ => rfl)
  rw [NameMap.empty, List.append_nil] at entries
  rw [plans_ofManifest]
  exact entries

theorem size_plans :
    (ofManifest manifest root).plans.size =
      (ofManifest manifest root).schemas.countP fun schema => schema.package?.isSome := by
  rw [NameMap.size, (entries_plans_perm manifest root).length_eq,
    List.length_filterMap_eq_countP]
  simp only [planned?_isSome]

variable {manifest root}

theorem get?_plans {schema : Schema} (member : schema ∈ (ofManifest manifest root).schemas) :
    (ofManifest manifest root).plans.get? schema.name = (schema.plan root).toOption := by
  have distinct := distinct_of_separate (separate_ofManifest manifest root)
  apply Option.ext
  intro plan
  rw [plansModules_ofManifest manifest root schema.name plan]
  constructor
  · rintro ⟨other, inTaken, same, planned⟩
    rcases List.inj_on_of_nodup_map distinct inTaken member same with rfl
    rw [planned]
    rfl
  · intro planned
    refine ⟨schema, member, rfl, ?_⟩
    cases made : schema.plan root with
    | ok _ => simpa [made, Except.toOption] using planned
    | error _ => simp [made, Except.toOption] at planned

variable {sorted : List Schema}
  (perm : sorted.Perm (ofManifest manifest root).schemas)
  (ascending : sorted.Pairwise fun left right => left.name < right.name)
include perm ascending

/-- The plans come in the order in which the modules come by name. -/
theorem entries_plans :
    (ofManifest manifest root).plans.entries = sorted.filterMap (planned? root) := by
  have samePlans := (entries_plans_perm manifest root).trans (perm.symm.filterMap _)
  apply samePlans.eq_of_pairwise _ (ofManifest manifest root).plans.ascending
  · apply List.pairwise_filterMap.2
    apply ascending.imp
    intro left right below first isFirst second isSecond
    rcases Option.map_eq_some_iff.1 isFirst with ⟨_, -, rfl⟩
    rcases Option.map_eq_some_iff.1 isSecond with ⟨_, -, rfl⟩
    exact below
  · intro first second _ _ below above
    exact absurd (String.lt_trans below above) (String.lt_irrefl _)

theorem actions_eq_flatMap :
    (ofManifest manifest root).actions =
      sorted.flatMap fun schema => (schema.plan root).toOption.elim [] Plan.actions := by
  rw [actions, NameMap.values, entries_plans perm ascending]
  clear perm ascending
  induction sorted with
  | nil => rfl
  | cons head rest induction =>
      rw [List.filterMap_cons, List.flatMap_cons, ← induction]
      cases made : head.plan root <;> simp [planned?, made, Except.toOption]

end Selection

/-! ## Conflicts of documentation modules -/

theorem Selection.Reported.not_isDocsConflict {earlier : List Schema} {declaration : Declaration}
    {taken : Option Schema} {errors : List ModuleError}
    (reported : Selection.Reported earlier declaration taken errors) :
    errors.countP ModuleError.isDocsConflict = 0 := by
  cases reported <;> rfl

theorem Selection.Reports.countP_isDocsConflict {earlier taken : List Schema}
    {declarations : List Declaration} {errors : List ModuleError}
    (reports : Selection.Reports earlier declarations taken errors) :
    errors.countP ModuleError.isDocsConflict = 0 := by
  induction reports with
  | none => rfl
  | next reported _ induction =>
      rw [List.countP_append, reported.not_isDocsConflict, induction]

theorem BuildFiles.countP_isDocsConflict (manifest : Manifest) (root : Path) :
    (ofManifest manifest root).failures.countP ModuleError.isDocsConflict =
      (Selection.ofManifest manifest root).registry.deriveDocs.errors.length := by
  rcases (Selection.settles_ofManifest manifest root).conflicts with ⟨parents, isErrors, -⟩
  have reports := (Selection.ofManifest_eq manifest root).2
  have all : ∀ error ∈ (Selection.ofManifest manifest root).registry.deriveDocs.errors.map
      ModuleError.registry, error.isDocsConflict = true := by
    rw [isErrors, List.map_map]
    intro error member
    rcases List.mem_map.1 member with ⟨parent, -, rfl⟩
    rfl
  rw [ofManifest, List.countP_append, reports.countP_isDocsConflict, Nat.zero_add,
    List.countP_eq_length.2 all, List.length_map]

theorem BuildFiles.documented_add_conflicts (manifest : Manifest) (root : Path) :
    (ofManifest manifest root).documented +
        (ofManifest manifest root).failures.countP ModuleError.isDocsConflict =
      (Selection.ofManifest manifest root).schemas.length := by
  have coherent := Selection.coherent_ofManifest manifest root
  have settles := Selection.settles_ofManifest manifest root
  have before := (Selection.ofManifest manifest root).registry.size_modules
  have after := (Selection.ofManifest manifest root).registry.deriveDocs.registry.size_modules
  have schemas := coherent.schemas_deriveDocs.length_eq
  have noDocs : (Selection.ofManifest manifest root).registry.docs = [] := by
    apply List.filterMap_eq_nil_iff.2
    intro entry member
    rcases Registry.mem_entries.1 member with ⟨name, found⟩
    rcases (Selection.get?_registry manifest root).1 found with ⟨schema, -, -, rfl⟩
    rfl
  have documented : (ofManifest manifest root).documented =
      (Selection.ofManifest manifest root).registry.deriveDocs.registry.docs.length := rfl
  have grown := settles.grown
  have counted := settles.counted
  rw [noDocs, List.length_nil] at before
  rw [countP_isDocsConflict, documented]
  omega

/-! ## Agreement -/

structure ModuleList.Describes (root : Path) (schema : Schema) (entry : Json) : Prop where
  name : entry.member? "name" = some (.string schema.name)
  sources : entry.member? "srcs" = some (.strings [schema.source])
  includes : entry.member? "include_files" = some (.strings schema.includes)
  package : entry.member? "package_name" = some (schema.package?.elim .null .string)
  unplanned : schema.package? = none → entry.member? "artifacts" = none ∧ actionsOf entry = []
  planned : schema.package?.isSome = true → ∃ plan, schema.plan root = .ok plan ∧
    entry.member? "artifacts" = some (artifacts plan.artifacts) ∧
    actionsOf entry = plan.actions.map action ∧ plan.actions.length = 2

theorem ModuleList.describes_schema (root : Path) (module : Schema) :
    Describes root module (schema module (module.plan root).toOption) := by
  cases made : module.plan root with
  | ok plan =>
      rcases Schema.actions_of_plan made with ⟨package, named, isActions⟩
      refine ⟨rfl, rfl, rfl, rfl, ?unplanned, ?planned⟩
      case unplanned =>
        intro unnamed
        rw [named] at unnamed
        cases unnamed
      case planned =>
        intro _
        exact ⟨plan, made, rfl, rfl, by rw [isActions]; rfl⟩
  | error error =>
      refine ⟨rfl, rfl, rfl, rfl, fun _ => ⟨rfl, rfl⟩, ?planned⟩
      case planned =>
        intro named
        rcases Option.isSome_iff_exists.1 named with ⟨package, isPackage⟩
        simp [Schema.plan, isPackage] at made

/-- What the build files of a manifest say, if these modules are taken, in this order, and the list
of modules has these entries. -/
structure BuildFiles.Agree (manifest : Manifest) (root : Path) (files : BuildFiles)
    (taken : List Schema) (entries : List Json) : Prop where
  accounted : ∃ errors, Selection.Reports [] manifest.declarations taken errors
  modules : files.modules = (Json.object [("modules", .array entries)]).render 0 ++ "\n"
  /-- The entries of schema modules describe the modules that were taken, by name. -/
  described : ∃ sorted : List Schema, sorted.Perm taken ∧
    (sorted.Pairwise fun left right => Bytes.ofString left.name < Bytes.ofString right.name) ∧
    List.Forall₂ (ModuleList.Describes root) sorted
      (entries.filter (ModuleList.isKind "xsd_config"))
  /-- The actions for which there are build statements are those that the entries list, in the same
  order. -/
  ninja : ∃ actions : List Action,
    files.ninja = String.join
      ((Ninja.header manifest.toolchain ++ actions.flatMap Ninja.statement).map (· ++ "\n")) ∧
    ∀ others : List Action,
      others.map ModuleList.action = entries.flatMap ModuleList.actionsOf ↔ others = actions
  bazel : files.bazel =
    "# Generated by xsd-config\n" ++ Starlark.renderLoads (taken.flatMap Schema.rules) ++
      String.join ((taken.flatMap Schema.rules).map fun rule => "\n" ++ rule.render ++ "\n")
  planned : files.planned = taken.countP fun schema => schema.package?.isSome
  targets : files.targets = 3 * taken.length
  documented : files.documented = entries.countP (ModuleList.isKind "droidstubs")
  settled : files.documented + files.failures.countP ModuleError.isDocsConflict = taken.length

/-- The build files and the counts of every manifest agree about its modules. -/
theorem BuildFiles.agree_ofManifest (manifest : Manifest) (root : Path) :
    ∃ entries, Agree manifest root (ofManifest manifest root)
      (Selection.ofManifest manifest root).schemas entries := by
  let selection := Selection.ofManifest manifest root
  let registry := selection.registry.deriveDocs.registry
  have coherent : Registry.Coherent selection.registry :=
    Selection.coherent_ofManifest manifest root
  have perm : registry.schemas.Perm selection.schemas :=
    coherent.schemas_deriveDocs.trans (Selection.schemas_registry_perm manifest root)
  have ascending : registry.schemas.Pairwise fun left right => left.name < right.name :=
    coherent.deriveDocs.schemas_ascending
  -- The entries look plans up by name. What they find is what the module itself says.
  have plans : ∀ schema ∈ registry.schemas,
      selection.plans.get? schema.name = (schema.plan root).toOption := by
    intro schema member
    exact Selection.get?_plans (perm.mem_iff.1 member)
  refine ⟨registry.entries.map (ModuleList.entry selection.plans),
    ⟨_, (Selection.ofManifest_eq manifest root).2⟩, rfl, ⟨_, perm, ?ascending, ?described⟩,
    ⟨_, Selection.ninja_ofManifest manifest root, ?actions⟩, rfl,
    Selection.size_plans manifest root, ?targets, ?documented,
    documented_add_conflicts manifest root⟩
  case ascending =>
    apply ascending.imp
    intro left right below
    exact Bytes.ofString_lt below
  case described =>
    rw [ModuleList.filter_isKind_schema, List.forall₂_map_right_iff, List.forall₂_same]
    intro schema member
    rw [plans schema member]
    exact ModuleList.describes_schema root schema
  case actions =>
    intro others
    have listed : (registry.entries.map (ModuleList.entry selection.plans)).flatMap
        ModuleList.actionsOf = selection.actions.map ModuleList.action := by
      rw [ModuleList.flatMap_actionsOf, Selection.actions_eq_flatMap perm ascending,
        List.map_flatMap]
      apply List.flatMap_congr
      intro schema member
      rw [plans schema member]
    rw [listed]
    exact (List.map_injective_iff.2 ModuleList.action_injective).eq_iff
  case targets =>
    simp [ofManifest, List.length_flatMap, Schema.length_rules, Nat.mul_comm]
  case documented =>
    rw [ModuleList.countP_isKind_docs]
    rfl

end SchemaBuild
