import SchemaBuild.Proofs.Components
import SchemaBuild.Proofs.Job.Layout
import SchemaBuild.Proofs.Selection

/-!
# Footprints of actions

Every path that an action writes to is below the directory of its module, under a name that no
other action of the module has there. So no two actions of a manifest come near each other's paths.
-/

namespace SchemaBuild

/-- The paths that an action writes to: the output with what is beside it on the way, and all files
that are promised. -/
def Action.footprint (action : Action) : List Path :=
  [action.output, action.staging, action.output.unfinished, action.depfile] ++ action.outputs

/-! ## Components -/

def Language.outputText : Language → String
  | .java => javaArchive
  | .cpp => "cpp"

theorem Language.outputText_append_ne {language other : Language} (different : language ≠ other)
    {suffix otherSuffix : String} (member : suffix ∈ outputSuffixes)
    (otherMember : otherSuffix ∈ outputSuffixes) :
    (language.outputText ++ suffix).toList ≠ (other.outputText ++ otherSuffix).toList := by
  have names : ∀ suffix ∈ outputSuffixes, ∀ otherSuffix ∈ outputSuffixes,
      (javaArchive ++ suffix).toList ≠ ("cpp" ++ otherSuffix).toList := by decide +kernel
  cases language <;> cases other
  · exact absurd rfl different
  · exact names suffix member otherSuffix otherMember
  · exact (names otherSuffix otherMember suffix member).symm
  · exact absurd rfl different

namespace Schema

variable {schema : Schema} {root : Path} {package : String} {action : Action}

theorem components_directory (schema : Schema) (root : Path) :
    (schema.directory root).components = root.components ++ [.name schema.name.toList] := by
  refine Path.components_join root (isIdentifier_slash_notMem schema.name_isIdentifier) ?_
  exact Component.ofSegment_name (isIdentifier_ne_dots schema.name_isIdentifier)

theorem components_of_text {path : Path} {below : String}
    (text : path.text = (schema.directory root).text ++ "/" ++ below) :
    path.components = (schema.directory root).components ++
      (below.toList.splitOn '/').filterMap Component.ofSegment := by
  have notEmpty : (schema.directory root).text ≠ "" := by
    intro empty
    obtain ⟨last, ends, -⟩ := schema.directory_getLast? root
    simp [empty] at ends
  obtain ⟨text'⟩ := path
  obtain rfl := text
  exact Path.components_slash notEmpty below

def IsPlanned (schema : Schema) (root : Path) (package : String) (action : Action) : Prop :=
  action = schema.javaAction root package ∨ action = schema.cppAction root package

theorem IsPlanned.output_text (planned : IsPlanned schema root package action) :
    action.output.text = (schema.directory root).text ++ "/" ++ action.language.outputText := by
  rcases planned with rfl | rfl
  · exact schema.archivePath_text root
  · exact schema.cppPath_text root

theorem IsPlanned.components_withSuffix (planned : IsPlanned schema root package action)
    {suffix : String} (member : suffix ∈ outputSuffixes) :
    (action.output.withSuffix suffix).components = (schema.directory root).components ++
      [.name (action.language.outputText ++ suffix).toList] := by
  have text : (action.output.withSuffix suffix).text =
      (schema.directory root).text ++ "/" ++ (action.language.outputText ++ suffix) := by
    rw [Path.withSuffix, planned.output_text, String.append_assoc]
  have single : ∀ suffix ∈ outputSuffixes, ∀ language ∈ [Language.java, .cpp],
      ((language.outputText ++ suffix).toList.splitOn '/').filterMap Component.ofSegment =
        [.name (language.outputText ++ suffix).toList] := by decide +kernel
  rw [components_of_text text,
    single suffix member action.language (by cases action.language <;> simp)]

theorem IsPlanned.components_output (planned : IsPlanned schema root package action) :
    action.output.components = (schema.directory root).components ++
      [.name (action.language.outputText ++ "").toList] := by
  have bare := planned.components_withSuffix (show "" ∈ outputSuffixes by decide)
  rwa [Path.withSuffix, String.append_empty] at bare

/-! ## C++ files -/

theorem stem_segment (stem : String) {extension : String} (last : Char)
    (ends : extension.toList.getLast? = some last) (notDot : last ≠ '.') :
    Component.ofSegment (stem ++ extension).toList = some (.name (stem ++ extension).toList) := by
  refine Component.ofSegment_name fun dots onlyDots equal => ?_
  have lastOfDots : dots.getLast? = some last := by
    rw [← equal, String.toList_append, List.getLast?_append, ends, Option.some_or]
  exact notDot (onlyDots last (List.mem_of_getLast? lastOfDots))

variable (named : isPackageName package = true)
include named

theorem components_source {stem : String} (member : stem ∈ stems schema.flags package) :
    ((schema.cppPath root).join (stem ++ ".cpp")).components =
      (schema.cppPath root).components ++ [.name (stem ++ ".cpp").toList] := by
  refine Path.components_join _ ?_ (stem_segment stem 'p' (by decide) (by decide))
  simpa using slash_notMem_of_mem_stems named member

theorem components_header {stem : String} (member : stem ∈ stems schema.flags package) :
    (((schema.cppPath root).join "include").join (stem ++ ".h")).components =
      (schema.cppPath root).components ++
        [.name "include".toList, .name (stem ++ ".h").toList] := by
  have includeSegment : Component.ofSegment "include".toList = some (.name "include".toList) := by
    decide +kernel
  rw [Path.components_join _ ?_ (stem_segment stem 'h' (by decide) (by decide)),
    Path.components_join _ (by decide) includeSegment,
    List.append_assoc, List.singleton_append]
  simpa using slash_notMem_of_mem_stems named member

theorem cppOutputs_below {path : Path} (member : path ∈ schema.cppOutputs root package) :
    ∃ rest, rest ≠ [] ∧ path.components = (schema.cppPath root).components ++ rest := by
  rcases List.mem_append.1 member with source | header
  · obtain ⟨stem, inStems, rfl⟩ := List.mem_map.1 source
    exact ⟨_, by simp, components_source named inStems⟩
  · obtain ⟨stem, inStems, rfl⟩ := List.mem_map.1 header
    exact ⟨_, by simp, components_header named inStems⟩

omit named in
theorem nodup_stems (flags : Flags) (package : String) : (stems flags package).Nodup := by
  have different : stem package ≠ stem package ++ "_enums" := by
    intro equal
    have lengths := congrArg String.length equal
    simp at lengths
  unfold stems
  split <;> split <;> simp [different]

/-- The files that are promised differ also as paths are compared. -/
theorem nodup_cppOutputs :
    ((schema.cppOutputs root package).map Path.components).Nodup := by
  have sources : (stems schema.flags package).map
      (fun stem => ((schema.cppPath root).join (stem ++ ".cpp")).components) =
      (stems schema.flags package).map
        fun stem => (schema.cppPath root).components ++ [.name (stem ++ ".cpp").toList] :=
    List.map_congr_left fun stem member => components_source named member
  have headers : (stems schema.flags package).map
      (fun stem => (((schema.cppPath root).join "include").join (stem ++ ".h")).components) =
      (stems schema.flags package).map fun stem => (schema.cppPath root).components ++
        [.name "include".toList, .name (stem ++ ".h").toList] :=
    List.map_congr_left fun stem member => components_header named member
  rw [cppOutputs, List.map_append, List.map_map, List.map_map]
  change (List.map (fun stem => ((schema.cppPath root).join (stem ++ ".cpp")).components) _ ++
    List.map (fun stem =>
      (((schema.cppPath root).join "include").join (stem ++ ".h")).components) _).Nodup
  rw [sources, headers, List.nodup_append]
  refine ⟨(nodup_stems _ _).map ?_, (nodup_stems _ _).map ?_, ?_⟩
  · intro stem other equal
    exact String.toList_inj.1 (by simpa using equal)
  · intro stem other equal
    exact String.toList_inj.1 (by simpa using equal)
  · rintro _ source _ header equal
    obtain ⟨stem, -, rfl⟩ := List.mem_map.1 source
    obtain ⟨other, -, rfl⟩ := List.mem_map.1 header
    simp at equal

/-! ## One action -/

/-- Where the paths of an action are: below the directory of the module, first of all comes the
output's name, perhaps with a suffix. -/
theorem IsPlanned.components_footprint (planned : IsPlanned schema root package action)
    {path : Path} (member : path ∈ action.footprint) :
    ∃ suffix ∈ outputSuffixes, ∃ rest, path.components = (schema.directory root).components ++
      .name (action.language.outputText ++ suffix).toList :: rest := by
  have beside {suffix : String} (isSuffix : suffix ∈ outputSuffixes)
      (same : path = action.output.withSuffix suffix) :
      ∃ suffix ∈ outputSuffixes, ∃ rest, path.components = (schema.directory root).components ++
        .name (action.language.outputText ++ suffix).toList :: rest :=
    ⟨suffix, isSuffix, [], same ▸ planned.components_withSuffix isSuffix⟩
  have atOutput (rest : List Component) (isPath : path.components =
      action.output.components ++ rest) :
      ∃ suffix ∈ outputSuffixes, ∃ rest, path.components = (schema.directory root).components ++
        .name (action.language.outputText ++ suffix).toList :: rest := by
    refine ⟨"", by decide, rest, ?_⟩
    rw [isPath, planned.components_output, List.append_assoc, List.singleton_append]
  rcases List.mem_append.1 member with before | promised
  · simp only [List.mem_cons, List.not_mem_nil, or_false] at before
    rcases before with same | same | same | same
    · exact atOutput [] (by rw [same, List.append_nil])
    · refine beside (show ".temp" ∈ outputSuffixes by decide) (same.trans ?_)
      rcases planned with rfl | rfl <;> rfl
    · exact beside (show ".tmp" ∈ outputSuffixes by decide) same
    · refine beside (show ".d" ∈ outputSuffixes by decide) (same.trans ?_)
      rcases planned with rfl | rfl <;> rfl
  · rcases planned with rfl | rfl
    · obtain rfl := List.mem_singleton.1 promised
      exact atOutput [] (by rw [List.append_nil]; rfl)
    · obtain ⟨rest, -, components⟩ := cppOutputs_below named promised
      exact atOutput rest components

theorem IsPlanned.footprint_below (planned : IsPlanned schema root package action) {path : Path}
    (member : path ∈ action.footprint) : path.IsBelow (schema.directory root) := by
  obtain ⟨suffix, -, rest, components⟩ := planned.components_footprint named member
  exact Path.isBelow_of_components (by simp) components

end Schema

/-! ## Two actions -/

def Action.Separate (left right : Action) : Prop :=
  ∀ path ∈ left.footprint, ∀ other ∈ right.footprint, path.Separate other

namespace Schema

variable {schema other : Schema} {root : Path} {package otherPackage : String}
  {action otherAction : Action}

/-- Actions of modules with different names part at the modules' directories. -/
theorem IsPlanned.separate_modules (planned : IsPlanned schema root package action)
    (otherPlanned : IsPlanned other root otherPackage otherAction)
    (named : isPackageName package = true) (otherNamed : isPackageName otherPackage = true)
    (different : schema.name ≠ other.name) : action.Separate otherAction := by
  intro path member second otherMember
  obtain ⟨suffix, -, rest, components⟩ := planned.components_footprint named member
  obtain ⟨otherSuffix, -, otherRest, otherComponents⟩ :=
    otherPlanned.components_footprint otherNamed otherMember
  rw [components_directory, List.append_assoc, List.singleton_append] at components otherComponents
  refine Path.separate_of_components (fun equal => ?_) components otherComponents
  exact different (String.toList_inj.1 (Component.name.inj equal))

theorem IsPlanned.separate_languages (planned : IsPlanned schema root package action)
    (otherPlanned : IsPlanned schema root package otherAction)
    (named : isPackageName package = true)
    (different : action.language ≠ otherAction.language) : action.Separate otherAction := by
  intro path member second otherMember
  obtain ⟨suffix, isSuffix, rest, components⟩ := planned.components_footprint named member
  obtain ⟨otherSuffix, otherIsSuffix, otherRest, otherComponents⟩ :=
    otherPlanned.components_footprint named otherMember
  refine Path.separate_of_components (fun equal => ?_) components otherComponents
  exact Language.outputText_append_ne different isSuffix otherIsSuffix (Component.name.inj equal)

end Schema

/-! ## The plans of a manifest -/

namespace Selection

def PlansModules (root : Path) (selection : Selection) : Prop :=
  ∀ name plan, selection.plans.get? name = some plan ↔
    ∃ schema ∈ selection.schemas, schema.name = name ∧ schema.plan root = .ok plan

variable {root : Path} {selection : Selection} {schema : Schema}

theorem get?_plans_accept (registry : Registry) (name : String) :
    (selection.accept root schema registry).plans.get? name =
      if name = schema.name then (schema.plan root).toOption.or (selection.plans.get? name)
      else selection.plans.get? name := by
  unfold accept
  cases schema.plan root with
  | ok plan => simp [NameMap.get?_insert, Except.toOption]
  | error error => simp [fail, Except.toOption]

theorem PlansModules.accept (plans : PlansModules root selection)
    (free : Free selection.schemas schema) (registry : Registry) :
    PlansModules root (selection.accept root schema registry) := by
  intro name plan
  have unnamed : ∀ earlier ∈ selection.schemas, earlier.name ≠ schema.name := by
    intro earlier member same
    refine free schema.name (by simp [Target.namesOf]) earlier.name ⟨earlier, member, rfl, ?_⟩
    simp [Target.namesOf, same]
  rw [get?_plans_accept, schemas_accept]
  split
  next same =>
    subst same
    have unplanned : selection.plans.get? schema.name = none := by
      cases found : selection.plans.get? schema.name with
      | none => rfl
      | some old =>
          obtain ⟨earlier, member, same, -⟩ := (plans schema.name old).1 found
          exact absurd same (unnamed earlier member)
    rw [unplanned, Option.or_none]
    constructor
    · intro planned
      refine ⟨schema, by simp, rfl, ?_⟩
      cases made : schema.plan root with
      | ok made' => simpa [made, Except.toOption] using planned
      | error error => simp [made, Except.toOption] at planned
    · rintro ⟨earlier, member, same, planned⟩
      rcases List.mem_append.1 member with old | new
      · exact absurd same (unnamed earlier old)
      · obtain rfl := List.mem_singleton.1 new
        rw [planned]
        rfl
  next different =>
    rw [plans name plan]
    constructor
    · rintro ⟨earlier, member, same, planned⟩
      exact ⟨earlier, List.mem_append_left _ member, same, planned⟩
    · rintro ⟨earlier, member, same, planned⟩
      rcases List.mem_append.1 member with old | new
      · exact ⟨earlier, old, same, planned⟩
      · obtain rfl := List.mem_singleton.1 new
        exact absurd same.symm different

theorem PlansModules.declare (consistent : Consistent selection)
    (plans : PlansModules root selection) (declaration : Declaration) :
    PlansModules root (selection.declare root declaration) := by
  unfold Selection.declare
  split
  · exact plans
  next schema _ =>
    by_cases free : Free selection.schemas schema
    · rw [add_of_free root consistent free]
      exact plans.accept free _
    · by_cases declared : Declared selection.schemas schema.name
      · rw [add_of_declared root consistent declared]
        exact plans
      · obtain ⟨target, owner, equal, -, -⟩ := add_of_reserved root consistent declared free
        rw [equal]
        exact plans

theorem plansModules_foldl (declarations : List Declaration) {selection : Selection}
    (consistent : Consistent selection) (plans : PlansModules root selection) :
    PlansModules root (declarations.foldl (Selection.declare root) selection) := by
  induction declarations generalizing selection with
  | nil => exact plans
  | cons head tail induction =>
      exact induction (consistent.declare root head) (plans.declare consistent head)

theorem plansModules_ofManifest (manifest : Manifest) (root : Path) :
    PlansModules root (ofManifest manifest root) := by
  refine plansModules_foldl _ (consistent_upTo manifest root 0) fun name plan => ?_
  simp

def actions (selection : Selection) : List Action :=
  selection.plans.values.flatMap Plan.actions

theorem mem_actions (plans : PlansModules root selection) {action : Action} :
    action ∈ selection.actions ↔ ∃ schema ∈ selection.schemas, ∃ plan,
      schema.plan root = .ok plan ∧ action ∈ plan.actions := by
  rw [actions, List.mem_flatMap]
  constructor
  · rintro ⟨plan, isPlan, inPlan⟩
    obtain ⟨⟨name, _⟩, inEntries, rfl⟩ := List.mem_map.1 isPlan
    obtain ⟨schema, taken, -, planned⟩ := (plans name _).1 (NameMap.mem_entries.1 inEntries)
    exact ⟨schema, taken, _, planned, inPlan⟩
  · rintro ⟨schema, taken, plan, planned, inPlan⟩
    have found := (plans schema.name plan).2 ⟨schema, taken, rfl, planned⟩
    exact ⟨plan, List.mem_map.2 ⟨_, NameMap.mem_entries.2 found, rfl⟩, inPlan⟩

theorem separate_actions (plans : PlansModules root selection) :
    selection.actions.Pairwise Action.Separate := by
  refine List.pairwise_flatMap.2 ⟨fun plan member => ?_, ?_⟩
  · obtain ⟨⟨name, _⟩, inEntries, rfl⟩ := List.mem_map.1 member
    obtain ⟨schema, -, -, planned⟩ := (plans name _).1 (NameMap.mem_entries.1 inEntries)
    obtain ⟨package, named, actions⟩ := Schema.actions_of_plan planned
    have accepted := schema.package_isPackageName package named
    rw [actions]
    refine List.pairwise_pair.2 ?_
    exact Schema.IsPlanned.separate_languages (.inl rfl) (.inr rfl) accepted (by
      simp [Schema.javaAction, Schema.cppAction])
  · refine List.pairwise_map.2 (selection.plans.ascending.imp_of_mem ?_)
    rintro ⟨name, plan⟩ ⟨other, otherPlan⟩ member otherMember below action inPlan second inOther
    obtain ⟨schema, -, rfl, planned⟩ := (plans name plan).1 (NameMap.mem_entries.1 member)
    obtain ⟨otherSchema, -, rfl, otherPlanned⟩ :=
      (plans other otherPlan).1 (NameMap.mem_entries.1 otherMember)
    obtain ⟨package, named, isAction⟩ := Schema.action_of_plan planned inPlan
    obtain ⟨otherPackage, otherNamed, isOther⟩ := Schema.action_of_plan otherPlanned inOther
    refine Schema.IsPlanned.separate_modules isAction isOther
      (schema.package_isPackageName package named)
      (otherSchema.package_isPackageName otherPackage otherNamed) ?_
    intro same
    exact String.lt_irrefl _ (same ▸ below)

theorem ninja_ofManifest (manifest : Manifest) (root : Path) :
    (BuildFiles.ofManifest manifest root).ninja =
      Ninja.render manifest.toolchain (ofManifest manifest root).actions := by
  rw [BuildFiles.ofManifest, actions]

/-- What one action has to itself. -/
structure KeepsToModule (schema : Schema) (root : Path) (action : Action) : Prop where
  below : ∀ path ∈ action.footprint, path.IsBelow (root.join schema.name)
  promises : action.outputs ≠ []
  distinct : (action.outputs.map Path.components).Nodup
  published : action.language = .cpp → ∀ path ∈ action.outputs, path.IsBelow action.output

theorem keepsToModule {plan : Plan} {action : Action} (planned : schema.plan root = .ok plan)
    (inPlan : action ∈ plan.actions) : KeepsToModule schema root action := by
  obtain ⟨package, named, isAction⟩ := Schema.action_of_plan planned inPlan
  have accepted := schema.package_isPackageName package named
  refine ⟨fun path => Schema.IsPlanned.footprint_below accepted isAction,
    Schema.outputs_ne_nil_of_plan planned inPlan, ?_, fun isCpp path promised => ?_⟩
  · rcases isAction with rfl | rfl
    · simp [Schema.javaAction]
    · exact Schema.nodup_cppOutputs accepted
  · rcases isAction with rfl | rfl
    · cases isCpp
    · obtain ⟨rest, notEmpty, components⟩ := Schema.cppOutputs_below accepted promised
      exact Path.isBelow_of_components notEmpty components

/-- The actions of a manifest, for which its build statements are, never touch each other's paths.
Each of them stays in the directory of its module and promises something, no path twice, and its C++
files are in what it publishes. -/
theorem actions_stay_apart (manifest : Manifest) (root : Path) :
    ∃ actions : List Action,
      (BuildFiles.ofManifest manifest root).ninja = Ninja.render manifest.toolchain actions ∧
      (∀ action, action ∈ actions ↔ ∃ schema ∈ (ofManifest manifest root).schemas, ∃ plan,
        schema.plan root = .ok plan ∧ action ∈ plan.actions) ∧
      actions.Pairwise Action.Separate ∧
      ∀ schema ∈ (ofManifest manifest root).schemas, ∀ plan, schema.plan root = .ok plan →
        ∀ action ∈ plan.actions, KeepsToModule schema root action := by
  have plans := plansModules_ofManifest manifest root
  refine ⟨(ofManifest manifest root).actions, ninja_ofManifest manifest root,
    fun _ => mem_actions plans, separate_actions plans, ?_⟩
  intro schema _ plan planned action inPlan
  exact keepsToModule planned inPlan

end Selection

end SchemaBuild
