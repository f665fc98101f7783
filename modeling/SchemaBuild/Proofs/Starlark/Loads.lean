import Mathlib.Data.List.Sort
import SchemaBuild.Proofs.NameMap
import SchemaBuild.Proofs.Starlark.Readable
import SchemaBuild.Proofs.Text.Utf8

/-!
# What BUILD files load

Ahead of its rules, a BUILD file loads their kinds. There is one statement for each file that some
rule is loaded from, and it names each kind that is needed from this file once. Neither the order
of the rules, nor how often a rule occurs, nor rules that need no file leave a trace in this.
-/

namespace SchemaBuild.Starlark

variable {rules others : List Rule} {location kind : String}

/-! ## Files and kinds -/

theorem mem_loadLocations :
    location ∈ loadLocations rules ↔ ∃ rule ∈ rules, rule.load = some location := by
  rw [loadLocations, mem_sortedNames, List.mem_filterMap]

theorem loadLocations_ascending (rules : List Rule) :
    (loadLocations rules).Pairwise fun left right => left < right :=
  sortedNames_ascending _

theorem mem_loadedKinds :
    kind ∈ loadedKinds rules location ↔
      ∃ rule ∈ rules, rule.load = some location ∧ rule.kind = kind := by
  rw [loadedKinds, mem_sortedNames, List.mem_map]
  simp only [List.mem_filter, decide_eq_true_eq, and_assoc]

theorem loadedKinds_ascending (rules : List Rule) (location : String) :
    (loadedKinds rules location).Pairwise fun left right => left < right :=
  sortedNames_ascending _

theorem map_fst_loads (rules : List Rule) : (loads rules).map Prod.fst = loadLocations rules := by
  simp [loads, Function.comp_def]

/-- What is loaded depends on nothing but which rules need a file. -/
theorem loads_congr (same : ∀ rule, rule.load ≠ none → (rule ∈ others ↔ rule ∈ rules)) :
    loads others = loads rules := by
  have loaded (rule : Rule) (location : String) :
      rule ∈ others ∧ rule.load = some location ↔ rule ∈ rules ∧ rule.load = some location := by
    apply and_congr_left
    intro load
    exact same rule (by simp [load])
  have locations : loadLocations others = loadLocations rules := by
    apply (loadLocations_ascending others).eq_of_mem_iff (loadLocations_ascending rules)
    intro location
    simp only [mem_loadLocations, loaded]
  have kinds (location : String) : loadedKinds others location = loadedKinds rules location := by
    apply (loadedKinds_ascending others location).eq_of_mem_iff
      (loadedKinds_ascending rules location)
    intro kind
    simp only [mem_loadedKinds, ← and_assoc, loaded]
  simp only [loads, locations, kinds]

theorem renderLoads_eq (rules : List Rule) :
    renderLoads rules = String.ofList (writeLoads (loads rules)) := by
  rw [← toList_renderLoads, String.ofList_toList]

theorem renderLoads_congr (same : ∀ rule, rule.load ≠ none → (rule ∈ others ↔ rule ∈ rules)) :
    renderLoads others = renderLoads rules := by
  rw [renderLoads_eq, renderLoads_eq, loads_congr same]

theorem writeLoads_loads_eq_nil_iff :
    writeLoads (loads rules) = [] ↔ ∀ rule ∈ rules, rule.load = none := by
  have written (block : List (String × List String)) : writeLoads block = [] ↔ block = [] := by
    cases block <;> simp [writeLoads]
  rw [written, ← List.map_eq_nil_iff (f := Prod.fst), map_fst_loads,
    List.eq_nil_iff_forall_not_mem]
  simp only [mem_loadLocations, Option.eq_none_iff_forall_ne_some]
  constructor
  · intro nothing rule member location load
    exact nothing location ⟨rule, member, load⟩
  · rintro native location ⟨rule, member, load⟩
    exact native rule member location load

/-! ## Statements -/

structure Supplies (block : List (String × List String)) (rules : List Rule) : Prop where
  locations_ascending : block.Pairwise fun left right =>
    Bytes.ofString left.1 < Bytes.ofString right.1
  kinds_ascending : ∀ load ∈ block, load.2.Pairwise fun left right =>
    Bytes.ofString left < Bytes.ofString right
  mem_locations : ∀ location, location ∈ block.map Prod.fst ↔
    ∃ rule ∈ rules, rule.load = some location
  mem_kinds : ∀ load ∈ block, ∀ kind, kind ∈ load.2 ↔
    ∃ rule ∈ rules, rule.load = some load.1 ∧ rule.kind = kind
  /-- Among all that is loaded from the file of a rule there is its kind, once. -/
  once : ∀ rule ∈ rules, ∀ location, rule.load = some location →
    ((block.filter fun load => load.1 = location).flatMap Prod.snd).count rule.kind = 1

theorem count_kind_loads {rule : Rule} (member : rule ∈ rules)
    (load : rule.load = some location) :
    (((loads rules).filter fun load => load.1 = location).flatMap Prod.snd).count rule.kind =
      1 := by
  have single : (loadLocations rules).filter (fun other => other = location) = [location] := by
    rw [List.filter_eq, List.count_eq_one_of_mem (loadLocations_ascending rules).nodup
      (mem_loadLocations.2 ⟨rule, member, load⟩), List.replicate_one]
  have kinds : ((loads rules).filter fun load => load.1 = location).flatMap Prod.snd =
      loadedKinds rules location := by
    simp [loads, List.filter_map, Function.comp_def, single]
  rw [kinds]
  exact List.count_eq_one_of_mem (loadedKinds_ascending rules location).nodup
    (mem_loadedKinds.2 ⟨rule, member, load, rfl⟩)

theorem supplies_loads (rules : List Rule) : Supplies (loads rules) rules := by
  constructor
  case locations_ascending =>
    apply List.pairwise_map.2
    apply (loadLocations_ascending rules).imp
    intro left right before
    exact Bytes.ofString_lt before
  case kinds_ascending =>
    intro load member
    rcases List.mem_map.1 member with ⟨location, -, rfl⟩
    apply (loadedKinds_ascending rules location).imp
    intro left right before
    exact Bytes.ofString_lt before
  case mem_locations =>
    intro location
    rw [map_fst_loads]
    exact mem_loadLocations
  case mem_kinds =>
    intro load member kind
    rcases List.mem_map.1 member with ⟨location, -, rfl⟩
    exact mem_loadedKinds
  case once =>
    intro rule member location load
    exact count_kind_loads member load

/-- At the top of a BUILD file stand the statements that load what its rules need, and nothing if
no rule needs a file. They are the same for all lists with the same rules among those that do. -/
theorem renderFile_loads_needed_once (rules : List Rule) :
    ∃ block, Supplies block rules ∧
      (writeLoads block = [] ↔ ∀ rule ∈ rules, rule.load = none) ∧
      ∀ others, (∀ rule, rule.load ≠ none → (rule ∈ others ↔ rule ∈ rules)) →
        renderFile others = "# Generated by xsd-config\n" ++ String.ofList (writeLoads block) ++
          String.join (others.map fun rule => "\n" ++ rule.render ++ "\n") := by
  refine ⟨loads rules, supplies_loads rules, writeLoads_loads_eq_nil_iff, ?_⟩
  intro others same
  unfold renderFile
  rw [renderLoads_congr same, renderLoads_eq]

/-- Files and kinds are sorted, and what is used twice is loaded once. -/
example : loads [⟨"filegroup", none, "a", []⟩, ⟨"z_rule", some "//z:z.bzl", "b", []⟩,
    ⟨"a_rule", some "//a:a.bzl", "c", []⟩, ⟨"y_rule", some "//z:z.bzl", "d", []⟩,
    ⟨"z_rule", some "//z:z.bzl", "e", []⟩] =
      [("//a:a.bzl", ["a_rule"]), ("//z:z.bzl", ["y_rule", "z_rule"])] := by cbv

end SchemaBuild.Starlark
