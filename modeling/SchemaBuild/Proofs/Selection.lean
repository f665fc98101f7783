import Mathlib.Data.List.Nodup
import SchemaBuild.BuildFiles
import SchemaBuild.Proofs.NameMap

/-!
# The modules of a manifest

The declarations of a manifest are taken one after the other, each unless a name of it is
reserved by one that was taken before. The decision looks at two stores, the owners of targets
and the registry; both are shown to say no more than the list of the modules taken so far.
-/

namespace SchemaBuild

/-! ## Names of targets -/

theorem Target.namesOf_nodup (module : String) : (Target.namesOf module).Nodup := by
  have suffixes (left right : String) (different : left ≠ right) :
      module ++ left ≠ module ++ right := by
    intro equal
    exact different (String.append_right_inj module |>.1 equal)
  have bare (suffix : String) (nonempty : suffix ≠ "") : module ≠ module ++ suffix := by
    intro equal
    exact suffixes "" suffix nonempty.symm (by rw [String.append_empty]; exact equal)
  simp only [Target.namesOf, Target.cppName, Target.javaName, List.nodup_cons, List.mem_cons,
    List.not_mem_nil, or_false, not_or, not_false_eq_true, List.nodup_nil, and_true]
  exact ⟨⟨bare "-cpp" (by decide), bare "-java" (by decide)⟩,
    suffixes "-cpp" "-java" (by decide)⟩

@[simp] theorem Starlark.Rule.name_add (rule : Starlark.Rule) (name : String)
    (value : Starlark.Value) : (rule.add name value).name = rule.name := by
  unfold Starlark.Rule.add
  split <;> rfl

theorem Target.name_toRule (target : Target) : target.toRule.name = target.name := by
  have unchanged (attributes : List (String × Starlark.Value)) (rule : Starlark.Rule) :
      (attributes.foldl (fun rule entry => rule.add entry.1 entry.2) rule).name =
        rule.name := by
    induction attributes generalizing rule with
    | nil => rfl
    | cons head tail induction => rw [List.foldl_cons, induction, Starlark.Rule.name_add]
  exact unchanged target.attributes _

theorem Schema.names_rules (schema : Schema) :
    schema.rules.map Starlark.Rule.name = Target.namesOf schema.name := by
  simp [Schema.rules, Schema.targets, Target.name_toRule, Target.name, Target.namesOf,
    Schema.fileGroup, Schema.cppLibrary, Schema.javaLibrary]

namespace Selection

/-! ## Reserved names -/

def Reserves (schemas : List Schema) (target owner : String) : Prop :=
  ∃ schema ∈ schemas, schema.name = owner ∧ target ∈ Target.namesOf schema.name

/-- None of the given modules reserves a name of a target of another one. -/
def Free (schemas : List Schema) (schema : Schema) : Prop :=
  ∀ target ∈ Target.namesOf schema.name, ∀ owner, ¬Reserves schemas target owner

def FirstReserved (schemas : List Schema) (schema : Schema) (target : String) : Prop :=
  ∃ earlier later, Target.namesOf schema.name = earlier ++ target :: later ∧
    (∃ owner, Reserves schemas target owner) ∧
    ∀ other ∈ earlier, ∀ owner, ¬Reserves schemas other owner

def Declared (schemas : List Schema) (name : String) : Prop :=
  ∃ schema ∈ schemas, schema.name = name

theorem Declared.reserves {schemas : List Schema} {name : String}
    (declared : Declared schemas name) : Reserves schemas name name := by
  obtain ⟨schema, member, rfl⟩ := declared
  exact ⟨schema, member, rfl, by simp [Target.namesOf]⟩

theorem Reserves.declared {schemas : List Schema} {target owner : String}
    (reserves : Reserves schemas target owner) : Declared schemas owner := by
  obtain ⟨schema, member, equal, -⟩ := reserves
  exact ⟨schema, member, equal⟩

theorem reserves_append_singleton {schemas : List Schema} {schema : Schema}
    {target owner : String} :
    Reserves (schemas ++ [schema]) target owner ↔
      Reserves schemas target owner ∨
        schema.name = owner ∧ target ∈ Target.namesOf schema.name := by
  simp only [Reserves, List.mem_append, List.mem_singleton]
  constructor
  · rintro ⟨other, inOld | rfl, equal, member⟩
    · exact .inl ⟨other, inOld, equal, member⟩
    · exact .inr ⟨equal, member⟩
  · rintro (⟨other, inOld, equal, member⟩ | ⟨equal, member⟩)
    · exact ⟨other, .inl inOld, equal, member⟩
    · exact ⟨schema, .inr rfl, equal, member⟩

/-! ## What the stores say -/

structure Consistent (selection : Selection) : Prop where
  registered : ∀ name,
    selection.registry.modules.contains name = true ↔ Declared selection.schemas name
  owned : ∀ target owner,
    selection.owners.get? target = some owner ↔ Reserves selection.schemas target owner
  separate : selection.schemas.Pairwise fun left right =>
    (Target.namesOf left.name).Disjoint (Target.namesOf right.name)

namespace Consistent

variable {selection : Selection} {schema : Schema} {target owner other : String}

theorem owner_unique (consistent : Consistent selection)
    (first : Reserves selection.schemas target owner)
    (second : Reserves selection.schemas target other) : owner = other := by
  have equal := (consistent.owned target owner).2 first
  rw [(consistent.owned target other).2 second] at equal
  exact (Option.some.inj equal).symm

theorem unowned (consistent : Consistent selection) :
    selection.owners.get? target = none ↔ ∀ owner, ¬Reserves selection.schemas target owner := by
  rw [Option.eq_none_iff_forall_ne_some]
  exact forall_congr' fun owner => not_congr (consistent.owned target owner)

theorem taken?_eq_none (consistent : Consistent selection) :
    selection.taken? schema = none ↔ Free selection.schemas schema := by
  simp only [taken?, List.findSome?_eq_none_iff, Option.map_eq_none_iff, Free]
  exact forall₂_congr fun target _ => consistent.unowned

theorem taken?_eq_some (consistent : Consistent selection)
    (found : selection.taken? schema = some (target, owner)) :
    FirstReserved selection.schemas schema target ∧
      Reserves selection.schemas target owner := by
  obtain ⟨earlier, name, later, split, value, skipped⟩ := List.findSome?_eq_some_iff.1 found
  obtain ⟨holder, lookup, equal⟩ := Option.map_eq_some_iff.1 value
  obtain ⟨rfl, rfl⟩ := Prod.mk.inj equal
  have reserves := (consistent.owned name holder).1 lookup
  refine ⟨⟨earlier, later, split, ⟨holder, reserves⟩, fun free member => ?_⟩, reserves⟩
  exact consistent.unowned.1 (Option.map_eq_none_iff.1 (skipped free member))

/-- The name itself comes first among the targets, so a second module of one name always meets
the first one there. -/
theorem taken?_of_declared (consistent : Consistent selection)
    (declared : Declared selection.schemas schema.name) :
    selection.taken? schema = some (schema.name, schema.name) := by
  have owner := (consistent.owned schema.name schema.name).2 declared.reserves
  simp [taken?, Target.namesOf, owner]

end Consistent

/-! ## One declaration -/

section Accept

variable (selection : Selection) (root : Path) (schema : Schema) (registry : Registry)

/-- What is reported of a module that is taken: nothing but the lack of a plan. -/
def planFailures (root : Path) (schema : Schema) : List ModuleError :=
  match schema.plan root with
  | .ok _ => []
  | .error error => [.property error]

@[simp] theorem schemas_accept :
    (selection.accept root schema registry).schemas = selection.schemas ++ [schema] := by
  unfold accept
  split <;> rfl

@[simp] theorem registry_accept :
    (selection.accept root schema registry).registry = registry := by
  unfold accept
  split <;> rfl

@[simp] theorem failures_accept :
    (selection.accept root schema registry).failures =
      selection.failures ++ planFailures root schema := by
  unfold accept planFailures
  cases schema.plan root with
  | ok plan => simp
  | error error => simp [fail]

theorem owners_accept :
    (selection.accept root schema registry).owners =
      (Target.namesOf schema.name).foldl
        (fun owners target => owners.insert target schema.name) selection.owners := by
  unfold accept
  split <;> rfl

end Accept

theorem get?_foldl_insert (targets : List String) (owner target : String)
    (owners : NameMap String) :
    (targets.foldl (fun owners target => owners.insert target owner) owners).get? target =
      if target ∈ targets then some owner else owners.get? target := by
  induction targets generalizing owners with
  | nil => simp
  | cons head tail induction =>
      rw [List.foldl_cons, induction, NameMap.get?_insert]
      by_cases inTail : target ∈ tail <;> by_cases equal : target = head <;>
        simp [inTail, equal]

variable {selection : Selection} {schema : Schema}

theorem register_of_free (consistent : Consistent selection)
    (free : Free selection.schemas schema) :
    selection.registry.register schema = .ok { selection.registry with
      modules := selection.registry.modules.insert schema.name (.schema schema) } := by
  have undeclared : ¬Declared selection.schemas schema.name := fun declared =>
    free schema.name (by simp [Target.namesOf]) schema.name declared.reserves
  have absent : ¬selection.registry.modules.contains schema.name = true :=
    fun present => undeclared ((consistent.registered schema.name).1 present)
  rw [Registry.register, if_neg absent]

theorem add_of_free (root : Path) (consistent : Consistent selection)
    (free : Free selection.schemas schema) :
    selection.add root schema = selection.accept root schema { selection.registry with
      modules := selection.registry.modules.insert schema.name (.schema schema) } := by
  simp [add, consistent.taken?_eq_none.2 free, register_of_free consistent free]

theorem add_of_declared (root : Path) (consistent : Consistent selection)
    (declared : Declared selection.schemas schema.name) :
    selection.add root schema = selection.fail (.registry (.duplicate schema.name)) := by
  have present := (consistent.registered schema.name).2 declared
  simp [add, consistent.taken?_of_declared declared, Registry.register, present, Option.filter]

theorem add_of_reserved (root : Path) (consistent : Consistent selection)
    (undeclared : ¬Declared selection.schemas schema.name)
    (taken : ¬Free selection.schemas schema) :
    ∃ target owner,
      selection.add root schema =
        selection.fail (.registry (.targetConflict schema.name target owner)) ∧
      FirstReserved selection.schemas schema target ∧
      Reserves selection.schemas target owner := by
  cases found : selection.taken? schema with
  | none => exact absurd (consistent.taken?_eq_none.1 found) taken
  | some pair =>
      obtain ⟨target, owner⟩ := pair
      obtain ⟨first, reserves⟩ := consistent.taken?_eq_some found
      have different : owner ≠ schema.name := fun equal =>
        undeclared (equal ▸ reserves.declared)
      refine ⟨target, owner, ?_, first, reserves⟩
      simp [add, found, different, Option.filter]

theorem Consistent.fail (consistent : Consistent selection) (error : ModuleError) :
    Consistent (selection.fail error) :=
  ⟨consistent.registered, consistent.owned, consistent.separate⟩

theorem Consistent.accept (root : Path) (consistent : Consistent selection)
    (free : Free selection.schemas schema) :
    Consistent (selection.accept root schema { selection.registry with
      modules := selection.registry.modules.insert schema.name (.schema schema) }) where
  registered name := by
    rw [registry_accept, schemas_accept, NameMap.contains_insert, Bool.or_eq_true,
      decide_eq_true_iff, consistent.registered name]
    simp only [Declared, List.mem_append, List.mem_singleton]
    constructor
    · rintro (equal | ⟨other, member, equal⟩)
      · exact ⟨schema, .inr rfl, equal.symm⟩
      · exact ⟨other, .inl member, equal⟩
    · rintro ⟨other, member | rfl, equal⟩
      · exact .inr ⟨other, member, equal⟩
      · exact .inl equal.symm
  owned target owner := by
    rw [owners_accept, schemas_accept, get?_foldl_insert, reserves_append_singleton]
    by_cases member : target ∈ Target.namesOf schema.name
    · have unreserved := free target member owner
      simp [member, unreserved]
    · simp [member, consistent.owned target owner]
  separate := by
    rw [schemas_accept]
    refine List.pairwise_append.2 ⟨consistent.separate, List.pairwise_singleton _ _, ?_⟩
    intro earlier member later inNew
    obtain rfl := List.mem_singleton.1 inNew
    intro target ofEarlier ofLater
    exact free target ofLater earlier.name ⟨earlier, member, rfl, ofEarlier⟩

theorem Consistent.add (root : Path) (consistent : Consistent selection) (schema : Schema) :
    Consistent (selection.add root schema) := by
  by_cases free : Free selection.schemas schema
  · rw [add_of_free root consistent free]
    exact consistent.accept root free
  · by_cases declared : Declared selection.schemas schema.name
    · rw [add_of_declared root consistent declared]
      exact consistent.fail _
    · obtain ⟨target, owner, equal, -, -⟩ := add_of_reserved root consistent declared free
      rw [equal]
      exact consistent.fail _

theorem Consistent.declare (root : Path) (consistent : Consistent selection)
    (declaration : Declaration) : Consistent (selection.declare root declaration) := by
  unfold Selection.declare
  split
  · exact consistent.fail _
  · exact consistent.add root _

/-! ## The whole manifest -/

/-- What was taken from the first declarations of a manifest. -/
def upTo (manifest : Manifest) (root : Path) (count : Nat) : Selection :=
  (manifest.declarations.take count).foldl (Selection.declare root) {}

theorem upTo_length (manifest : Manifest) (root : Path) :
    upTo manifest root manifest.declarations.length = ofManifest manifest root := by
  rw [upTo, List.take_length, ofManifest]

theorem upTo_succ {manifest : Manifest} (root : Path) {position : Nat}
    {declaration : Declaration} (found : manifest.declarations[position]? = some declaration) :
    upTo manifest root (position + 1) =
      (upTo manifest root position).declare root declaration := by
  rw [upTo, List.take_add_one, found, List.foldl_append, upTo]
  rfl

theorem consistent_empty : Consistent {} :=
  ⟨by simp [Declared, Registry.empty], by simp [Reserves], List.Pairwise.nil⟩

theorem consistent_foldl (root : Path) (declarations : List Declaration)
    {selection : Selection} (consistent : Consistent selection) :
    Consistent (declarations.foldl (Selection.declare root) selection) := by
  induction declarations generalizing selection with
  | nil => exact consistent
  | cons head tail induction => exact induction (consistent.declare root head)

theorem consistent_upTo (manifest : Manifest) (root : Path) (count : Nat) :
    Consistent (upTo manifest root count) :=
  consistent_foldl root _ consistent_empty

theorem names_rules_nodup (manifest : Manifest) (root : Path) :
    (((ofManifest manifest root).schemas.flatMap Schema.rules).map
      Starlark.Rule.name).Nodup := by
  have separate := (upTo_length manifest root ▸ consistent_upTo manifest root _).separate
  rw [List.map_flatMap]
  simp only [Schema.names_rules]
  exact List.nodup_flatMap.2 ⟨fun schema _ => Target.namesOf_nodup schema.name, separate⟩

/-- What becomes of the declaration at a position, given what was taken before it. -/
structure Decided (root : Path) (declaration : Declaration) (before after : Selection) :
    Prop where
  /-- It is taken if it is well formed and none of its names is reserved. -/
  accepted_iff : (∃ schema, after.schemas = before.schemas ++ [schema]) ↔
    ∃ schema, declaration.check = .ok schema ∧ Free before.schemas schema
  accepted : ∀ schema, declaration.check = .ok schema → Free before.schemas schema →
    after.schemas = before.schemas ++ [schema] ∧
      after.failures = before.failures ++ planFailures root schema
  malformed : ∀ error, declaration.check = .error error →
    after.schemas = before.schemas ∧ after.failures = before.failures ++ [.property error]
  /-- A well-formed declaration that is not taken has one error: a duplicate, or the first of its
  targets that is reserved, with the only module that reserves it. -/
  rejected : ∀ schema, declaration.check = .ok schema → ¬Free before.schemas schema →
    after.schemas = before.schemas ∧
      ∃ error, after.failures = before.failures ++ [.registry error] ∧
        (error = .duplicate schema.name ↔ Declared before.schemas schema.name) ∧
        (¬Declared before.schemas schema.name →
          ∃ target owner, error = .targetConflict schema.name target owner ∧
            FirstReserved before.schemas schema target ∧
            Reserves before.schemas target owner ∧
            ∀ other, Reserves before.schemas target other → other = owner)

theorem decided_of_error (root : Path) {declaration : Declaration} {error : PropertyError}
    (checked : declaration.check = .error error) (before : Selection) :
    Decided root declaration before (before.declare root declaration) := by
  have equal : before.declare root declaration = before.fail (.property error) := by
    simp [Selection.declare, checked]
  rw [equal]
  refine ⟨?_, ?_, ?_, ?_⟩
  · simp [checked, fail]
  · simp [checked]
  · simp [checked, fail]
  · simp [checked]

theorem decided_of_ok (root : Path) {declaration : Declaration} {schema : Schema}
    (checked : declaration.check = .ok schema) {before : Selection}
    (consistent : Consistent before) :
    Decided root declaration before (before.declare root declaration) := by
  have equal : before.declare root declaration = before.add root schema := by
    simp [Selection.declare, checked]
  have unchanged (error : ModuleError) (other : Schema) :
      (before.fail error).schemas ≠ before.schemas ++ [other] := by
    simp [fail]
  rw [equal]
  by_cases free : Free before.schemas schema
  · rw [add_of_free root consistent free]
    refine ⟨?_, ?_, ?_, ?_⟩ <;> simp [checked, free]
  · by_cases declared : Declared before.schemas schema.name
    · rw [add_of_declared root consistent declared]
      refine ⟨?_, ?_, ?_, ?_⟩
      · simp [checked, free, unchanged]
      · simp [checked, free]
      · simp [checked]
      · intro other sameCheck _
        obtain rfl := Except.ok.inj (checked.symm.trans sameCheck)
        exact ⟨rfl, _, rfl, by simp [declared], fun undeclared => absurd declared undeclared⟩
    · obtain ⟨target, owner, added, first, reserves⟩ :=
        add_of_reserved root consistent declared free
      rw [added]
      refine ⟨?_, ?_, ?_, ?_⟩
      · simp [checked, free, unchanged]
      · simp [checked, free]
      · simp [checked]
      · intro other sameCheck _
        obtain rfl := Except.ok.inj (checked.symm.trans sameCheck)
        refine ⟨rfl, _, rfl, by simp [declared], fun _ => ⟨target, owner, rfl, first, reserves, ?_⟩⟩
        exact fun other reservesOther => consistent.owner_unique reservesOther reserves

/-- Taking the declarations one after the other selects greedily: at every position the module is
taken exactly if it is well formed and free of conflicts with those taken before, and otherwise
one error says why. So the rules of the BUILD file have names of their own. -/
theorem ofManifest_selects_greedily (manifest : Manifest) (root : Path) :
    upTo manifest root 0 = {} ∧
    (∀ position declaration, manifest.declarations[position]? = some declaration →
      Decided root declaration (upTo manifest root position)
        (upTo manifest root (position + 1))) ∧
    upTo manifest root manifest.declarations.length = ofManifest manifest root ∧
    ∃ rules : List Starlark.Rule,
      rules = (ofManifest manifest root).schemas.flatMap Schema.rules ∧
      (BuildFiles.ofManifest manifest root).bazel = Starlark.renderFile rules ∧
      (rules.map Starlark.Rule.name).Nodup := by
  refine ⟨rfl, ?_, upTo_length manifest root, _, rfl, rfl, names_rules_nodup manifest root⟩
  intro position declaration found
  rw [upTo_succ root found]
  cases checked : declaration.check with
  | error error => exact decided_of_error root checked _
  | ok schema => exact decided_of_ok root checked (consistent_upTo manifest root position)

def overlapping : Manifest where
  version := 1
  toolchainKeys := none
  declarations := [
    { name := "foo", srcs := ["foo.xsd"], packageName := some "foo" },
    { name := "foo-cpp", srcs := ["foo.xsd"], packageName := some "foo" },
    { name := "foo", srcs := ["bar.xsd"] }]

theorem overlapping_selected_greedily :
    overlapping.declarations.length = 3 ∧
    (∀ position declaration, overlapping.declarations[position]? = some declaration →
      Decided ⟨"gen"⟩ declaration (upTo overlapping ⟨"gen"⟩ position)
        (upTo overlapping ⟨"gen"⟩ (position + 1))) ∧
    (upTo overlapping ⟨"gen"⟩ 3).failures = [
      .registry (.targetConflict "foo-cpp" "foo-cpp" "foo"), .registry (.duplicate "foo")] :=
  ⟨rfl, (ofManifest_selects_greedily overlapping ⟨"gen"⟩).2.1, by decide +kernel⟩

end Selection

end SchemaBuild
