import SchemaBuild.Proofs.Starlark.Attributes
import SchemaBuild.Proofs.Starlark.Readable
import SchemaBuild.Target

/-!
# What declarative targets tell

The targets of a schema module are written with only those attributes that say something. Still
nothing is lost: the modules can be read off the text of a BUILD file, in their order and with all
that their declarations said.
-/

namespace SchemaBuild

open Starlark (Literal Rule Statement Value)

/-! ## The attributes of a target -/

namespace Target

theorem toRule_eq (target : Target) :
    target.toRule = { kind := target.kind, load := target.load, name := target.name, attributes :=
      (target.attributes.filter fun item => !item.2.isUnset).map fun item => ⟨item.1, item.2⟩ } :=
  Rule.adding_eq target.kind target.load target.name target.attributes

theorem mem_attributes_statement {target : Target} {name : String} {literal : Literal} :
    (name, literal) ∈ target.toRule.statement.attributes ↔
      ∃ value, (name, value) ∈ target.attributes ∧ value.isUnset = false ∧
        value.literal = literal := by
  have sorted (item : Starlark.Attribute) :
      item ∈ target.toRule.sortedAttributes ↔ item ∈ target.toRule.attributes :=
    target.toRule.perm_sortedAttributes.mem_iff
  rw [Rule.statement, toRule_eq] at *
  simp only [List.mem_map, sorted]
  constructor
  · rintro ⟨_, ⟨⟨_, value⟩, member, rfl⟩, equal⟩
    obtain ⟨rfl, rfl⟩ := Prod.mk.inj equal
    exact ⟨value, by simpa using member⟩
  · rintro ⟨value, member, set, rfl⟩
    exact ⟨⟨name, value⟩, ⟨(name, value), by simp [member, set], rfl⟩, rfl⟩

theorem isPlain_statement (target : Target) : target.toRule.statement.IsPlain := by
  have names : ∀ name ∈ target.attributes.map Prod.fst, ' ' ∉ name.toList := by
    cases target <;> simp only [attributes, List.map_cons, List.map_nil] <;> decide +kernel
  refine ⟨?_, ?_⟩
  · rw [Rule.statement, toRule_eq]
    cases target <;> simp [kind]
  · rintro ⟨name, literal⟩ member
    obtain ⟨value, inAttributes, -⟩ := mem_attributes_statement.1 member
    exact names name (List.mem_map_of_mem inAttributes)

theorem says_congr {left right : Target}
    (same : left.toRule.statement = right.toRule.statement) (name : String) (literal : Literal) :
    (∃ value, (name, value) ∈ left.attributes ∧ value.isUnset = false ∧
        value.literal = literal) ↔
      ∃ value, (name, value) ∈ right.attributes ∧ value.isUnset = false ∧
        value.literal = literal := by
  rw [← mem_attributes_statement, ← mem_attributes_statement, same]

end Target

/-! ## Modules -/

namespace Schema

variable {schema other : Schema}

theorem eq_of_iff {α : Type} {left right empty : α}
    (same : ∀ value, left ≠ empty ∧ left = value ↔ right ≠ empty ∧ right = value) :
    left = right := by
  by_cases none : left = empty
  · by_cases also : right = empty
    · exact none.trans also.symm
    · exact absurd none ((same right).2 ⟨also, rfl⟩).1
  · exact ((same left).1 ⟨none, rfl⟩).2.symm

theorem package_eq_of_packageOrEmpty (same : schema.packageOrEmpty = other.packageOrEmpty) :
    schema.package? = other.package? := by
  have nonempty (schema : Schema) (package : String) (named : schema.package? = some package) :
      package ≠ "" := by
    intro empty
    have accepted := schema.package_isPackageName package named
    rw [empty] at accepted
    exact absurd accepted (by decide +kernel)
  unfold packageOrEmpty at same
  cases left : schema.package? with
  | none =>
      cases right : other.package? with
      | none => rfl
      | some package =>
          rw [left, right] at same
          exact absurd same.symm (nonempty other package right)
  | some package =>
      cases right : other.package? with
      | none =>
          rw [left, right] at same
          exact absurd same (nonempty schema package left)
      | some package' =>
          rw [left, right] at same
          exact congrArg some same

theorem eq_of_statements
    (group : (Target.fileGroup schema.fileGroup).toRule.statement =
      (Target.fileGroup other.fileGroup).toRule.statement)
    (cpp : (Target.cppLibrary schema.cppLibrary).toRule.statement =
      (Target.cppLibrary other.cppLibrary).toRule.statement)
    (java : (Target.javaLibrary schema.javaLibrary).toRule.statement =
      (Target.javaLibrary other.javaLibrary).toRule.statement) : schema = other := by
  have name : schema.name = other.name := by
    have names := congrArg Statement.name group
    simpa [Rule.statement, Target.toRule_eq, Target.name, fileGroup] using names
  have files : schema.files = other.files := by
    have said := fun texts => Target.says_congr group "srcs" (.list texts)
    simp only [Target.attributes, fileGroup] at said
    simp [Value.isUnset, Value.literal, Function.comp_def, Starlark.Label.file] at said
    exact eq_of_iff said
  have roots : schema.rootElements = other.rootElements := by
    have said := fun texts => Target.says_congr cpp "root_elements" (.list texts)
    simp [Target.attributes, cppLibrary, Value.isUnset, Value.literal] at said
    exact eq_of_iff said
  have package : schema.package? = other.package? := by
    have said := fun text => Target.says_congr cpp "package_name" (.text text)
    simp [Target.attributes, cppLibrary, Value.isUnset, Value.literal] at said
    exact package_eq_of_packageOrEmpty (eq_of_iff said)
  have flags : schema.flags = other.flags := by
    have genWriter := Target.says_congr cpp "gen_writer" (.bool true)
    have enumsOnly := Target.says_congr cpp "enums_only" (.bool true)
    have parserOnly := Target.says_congr cpp "parser_only" (.bool true)
    have booleanGetter := Target.says_congr cpp "boolean_getter" (.bool true)
    have tinyxml := Target.says_congr cpp "tinyxml" (.bool true)
    have nullability := Target.says_congr java "nullability" (.bool true)
    have genHas := Target.says_congr java "gen_has" (.bool true)
    simp [Target.attributes, cppLibrary, javaLibrary, Value.isUnset, Value.literal]
      at genWriter enumsOnly parserOnly booleanGetter tinyxml nullability genHas
    cases left : schema.flags
    cases right : other.flags
    simp_all
  obtain ⟨sources, includes⟩ := List.cons.inj files
  cases schema
  cases other
  simp_all

theorem rules_eq (schema : Schema) : schema.rules = [(Target.fileGroup schema.fileGroup).toRule,
    (Target.cppLibrary schema.cppLibrary).toRule, (Target.javaLibrary schema.javaLibrary).toRule] :=
  rfl

theorem isPlain_of_mem_rules {schemas : List Schema} {rule : Rule}
    (member : rule ∈ schemas.flatMap rules) : rule.statement.IsPlain := by
  obtain ⟨schema, -, inRules⟩ := List.mem_flatMap.1 member
  obtain ⟨target, -, rfl⟩ := List.mem_map.1 inRules
  exact target.isPlain_statement

/-- Modules one after the other can be told apart, as each of them has three rules. -/
theorem eq_of_map_statement : ∀ {schemas others : List Schema},
    (schemas.flatMap rules).map Rule.statement = (others.flatMap rules).map Rule.statement →
      schemas = others
  | [], [], _ => rfl
  | [], _ :: _, equal => by simp [rules_eq] at equal
  | _ :: _, [], equal => by simp [rules_eq] at equal
  | schema :: schemas, other :: others, equal => by
      simp only [List.flatMap_cons, rules_eq, List.cons_append, List.nil_append, List.map_cons,
        List.cons.injEq] at equal
      obtain ⟨group, cpp, java, behind⟩ := equal
      rw [eq_of_statements group cpp java, eq_of_map_statement behind]

/-- The text of declarative targets loses nothing: it is the same for the same modules in the same
order only. -/
theorem renderFile_rules_eq_iff (schemas others : List Schema) :
    Starlark.renderFile (schemas.flatMap rules) = Starlark.renderFile (others.flatMap rules) ↔
      schemas = others := by
  constructor
  · intro equal
    have told := Starlark.statements_of_renderFile (fun _ => isPlain_of_mem_rules)
      (fun _ => isPlain_of_mem_rules) equal
    exact eq_of_map_statement told.2
  · rintro rfl
    rfl

end Schema

end SchemaBuild
