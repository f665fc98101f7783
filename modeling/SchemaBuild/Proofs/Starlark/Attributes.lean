import Mathlib.Data.List.Nodup
import SchemaBuild.Proofs.Text.Utf8
import SchemaBuild.Starlark

/-!
# Attributes of rules

A rule is made by adding one attribute after the other. Its text does not depend on the order in
which this is done, as the attributes are sorted by name, nor on what is added without saying
anything.
-/

namespace SchemaBuild.Starlark.Rule

/-! ## Adding -/

theorem foldl_add (items : List (String × Value)) (rule : Rule) :
    items.foldl (fun rule item => rule.add item.1 item.2) rule =
      { rule with attributes := rule.attributes ++
        (items.filter fun item => !item.2.isUnset).map fun item => ⟨item.1, item.2⟩ } := by
  induction items generalizing rule with
  | nil => simp
  | cons head tail induction =>
      rw [List.foldl_cons, induction]
      cases unset : head.2.isUnset with
      | true => simp [Rule.add, unset]
      | false => simp [Rule.add, unset]

def adding (kind : String) (load : Option String) (name : String)
    (items : List (String × Value)) : Rule :=
  items.foldl (fun rule item => rule.add item.1 item.2) { kind := kind, load := load, name := name }

/-- The items that say something. -/
def effective (items : List (String × Value)) : List (String × Value) :=
  items.filter fun item => !item.2.isUnset

theorem mem_effective {items : List (String × Value)} {name : String} {value : Value} :
    (name, value) ∈ effective items ↔ (name, value) ∈ items ∧ value.isUnset = false := by
  simp [effective]

theorem adding_eq (kind : String) (load : Option String) (name : String)
    (items : List (String × Value)) :
    adding kind load name items =
      { kind := kind, load := load, name := name, attributes :=
          (effective items).map fun item => ⟨item.1, item.2⟩ } :=
  (foldl_add items _).trans (by simp [effective])

theorem distinct_adding {items : List (String × Value)} (distinct : (items.map Prod.fst).Nodup)
    (kind : String) (load : Option String) (name : String) :
    ((adding kind load name items).attributes.map Attribute.name).Nodup := by
  rw [adding_eq, List.map_map]
  exact (List.filter_sublist.map Prod.fst).nodup distinct

/-! ## Sorting -/

section

variable {rule other : Rule}

theorem perm_sortedAttributes (rule : Rule) : rule.sortedAttributes.Perm rule.attributes :=
  List.mergeSort_perm _ _

theorem sortedAttributes_ascending (distinct : (rule.attributes.map Attribute.name).Nodup) :
    rule.sortedAttributes.Pairwise fun left right => left.name < right.name := by
  have sorted : rule.sortedAttributes.Pairwise fun left right => left.name ≤ right.name :=
    Text.pairwise_mergeSort Attribute.name rule.attributes
  have different : rule.sortedAttributes.Pairwise fun left right => left.name ≠ right.name :=
    List.pairwise_map.1 ((rule.perm_sortedAttributes.map Attribute.name).nodup_iff.2 distinct)
  apply sorted.imp₂ _ different
  intro left right before notSame
  apply String.not_le.1
  intro after
  exact notSame (String.le_antisymm before after)

theorem sortedAttributes_congr (same : other.attributes.Perm rule.attributes)
    (distinct : (rule.attributes.map Attribute.name).Nodup) :
    other.sortedAttributes = rule.sortedAttributes := by
  have otherDistinct := (same.map Attribute.name).nodup_iff.2 distinct
  apply List.Perm.eq_of_pairwise _ (sortedAttributes_ascending otherDistinct)
    (sortedAttributes_ascending distinct)
  · exact other.perm_sortedAttributes.trans (same.trans rule.perm_sortedAttributes.symm)
  · intro left right _ _ before after
    exact absurd after (String.lt_asymm before)

theorem get?_eq_some_iff (distinct : (rule.attributes.map Attribute.name).Nodup) {name : String}
    {value : Value} : rule.get? name = some value ↔ ⟨name, value⟩ ∈ rule.attributes := by
  have named {item : Attribute}
      (found : rule.attributes.find? (fun item => item.name = name) = some item) :
      item.name = name := by
    simpa using List.find?_some found
  unfold get?
  rw [Option.map_eq_some_iff]
  constructor
  · rintro ⟨item, found, rfl⟩
    rw [← named found]
    exact List.mem_of_find?_eq_some found
  · intro member
    have isThere : (rule.attributes.find? fun item => item.name = name).isSome := by
      rw [List.find?_isSome]
      exact ⟨_, member, decide_eq_true rfl⟩
    rcases Option.isSome_iff_exists.1 isThere with ⟨item, found⟩
    have same := List.inj_on_of_nodup_map distinct (List.mem_of_find?_eq_some found) member
      (named found)
    exact ⟨item, found, congrArg Attribute.value same⟩

end

/-! ## Text -/

/-- The text of a rule is the same for every order in which attributes are added, and with or
without those that say nothing. It names the attributes in ascending order, and exactly those that
are found by their names, with the values that are found: those that were added and say something.
-/
theorem render_adding (kind : String) (load : Option String) (name : String)
    (items : List (String × Value)) (distinct : (items.map Prod.fst).Nodup) :
    (∀ others, (effective others).Perm (effective items) →
      (adding kind load name others).render = (adding kind load name items).render) ∧
    (∃ entries : List Attribute,
      (adding kind load name items).render = kind ++ "(\n    name = " ++ quote name ++ ",\n" ++
        String.join (entries.map fun entry =>
          "    " ++ entry.name ++ " = " ++ entry.value.render 4 ++ ",\n") ++ ")" ∧
      (entries.Pairwise fun left right => Bytes.ofString left.name < Bytes.ofString right.name) ∧
      ∀ key value, ⟨key, value⟩ ∈ entries ↔
        (adding kind load name items).get? key = some value) ∧
    ∀ key value, (adding kind load name items).get? key = some value ↔
      (key, value) ∈ items ∧ value.isUnset = false := by
  have distinctAdded := distinct_adding distinct kind load name
  refine ⟨?same, ⟨(adding kind load name items).sortedAttributes, ?text, ?ascending, ?found⟩, ?said⟩
  case same =>
    intro others perm
    have attributes : (adding kind load name others).attributes.Perm
        (adding kind load name items).attributes := by
      rw [adding_eq, adding_eq]
      exact perm.map _
    have sorted := sortedAttributes_congr attributes distinctAdded
    unfold render
    rw [sorted, adding_eq, adding_eq]
  case text =>
    unfold render renderAttribute
    rw [adding_eq]
  case ascending =>
    apply (sortedAttributes_ascending distinctAdded).imp
    intro left right before
    exact Bytes.ofString_lt before
  case found =>
    intro key value
    rw [get?_eq_some_iff distinctAdded, (perm_sortedAttributes _).mem_iff]
  case said =>
    intro key value
    rw [get?_eq_some_iff distinctAdded, adding_eq, ← mem_effective]
    simp

theorem render_adding_srcs :
    (["srcs", "gen_writer", "deps"]).Nodup ∧
      (adding "xsd_library" none "foo" [("deps", .labels [⟨":bar"⟩]),
          ("srcs", .strings ["a.xsd", "b.xsd"]), ("tinyxml", .bool false)]).render =
        (adding "xsd_library" none "foo" [("srcs", .strings ["a.xsd", "b.xsd"]),
          ("gen_writer", .bool false), ("deps", .labels [⟨":bar"⟩])]).render := by
  have distinct : (["srcs", "gen_writer", "deps"]).Nodup := by decide
  have same := render_adding "xsd_library" none "foo" [("srcs", .strings ["a.xsd", "b.xsd"]),
    ("gen_writer", .bool false), ("deps", .labels [⟨":bar"⟩])] distinct
  exact ⟨distinct, same.1 _ (by decide)⟩

end SchemaBuild.Starlark.Rule
