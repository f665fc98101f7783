import Mathlib.Data.List.Nodup
import SchemaBuild.NameMap

/-!
# Looking up names

What a map holds after an insertion. The order of the entries plays no part in it, since a name
is looked up from the front and an insertion never leaves an older entry before the new one. So a
map is known by what it holds, and the order of insertions under different names leaves no trace.
-/

namespace SchemaBuild

namespace Ascending

theorem lookup_cons_eq_ite {α : Type} (name other : String) (value : α)
    (entries : List (String × α)) :
    ((name, value) :: entries).lookup other =
      if other = name then some value else entries.lookup other := by
  rw [List.lookup_cons]
  cases equal : other == name with
  | true => rw [if_pos (beq_iff_eq.1 equal)]
  | false => rw [if_neg (beq_eq_false_iff_ne.1 equal)]

theorem lookup_insert {α : Type} (name other : String) (value : α)
    (entries : List (String × α)) :
    (insert name value entries).lookup other =
      if other = name then some value else entries.lookup other := by
  induction entries with
  | nil => rw [insert, lookup_cons_eq_ite]
  | cons head tail induction =>
      obtain ⟨key, old⟩ := head
      simp only [insert]
      split
      · rw [lookup_cons_eq_ite]
      · split
        next same =>
          subst same
          simp only [lookup_cons_eq_ite]
          by_cases equal : other = name <;> simp [equal]
        next different =>
          simp only [lookup_cons_eq_ite, induction]
          by_cases equal : other = key
          · simp [equal, Ne.symm different]
          · simp [equal]

/-- In ascending entries no earlier one hides another. -/
theorem lookup_of_mem {α : Type} {name : String} {value : α} {entries : List (String × α)}
    (ascending : entries.Pairwise fun left right => left.1 < right.1)
    (member : (name, value) ∈ entries) : entries.lookup name = some value := by
  induction entries with
  | nil => cases member
  | cons head tail induction =>
      obtain ⟨key, old⟩ := head
      obtain ⟨below, rest⟩ := List.pairwise_cons.1 ascending
      rcases List.mem_cons.1 member with same | inTail
      · obtain ⟨rfl, rfl⟩ := Prod.mk.inj same
        rw [lookup_cons_eq_ite, if_pos rfl]
      · have different : name ≠ key := by
          rintro rfl
          exact String.lt_irrefl _ (below (name, value) inTail)
        rw [lookup_cons_eq_ite, if_neg different]
        exact induction rest inTail

theorem mem_of_lookup {α : Type} {name : String} {value : α} {entries : List (String × α)}
    (found : entries.lookup name = some value) : (name, value) ∈ entries := by
  induction entries with
  | nil => cases found
  | cons head tail induction =>
      obtain ⟨key, old⟩ := head
      rw [lookup_cons_eq_ite] at found
      split at found
      next same =>
        obtain rfl := Option.some.inj found
        exact same ▸ List.mem_cons_self
      next => exact List.mem_cons_of_mem _ (induction found)

theorem insert_perm {α : Type} {name : String} (value : α) {entries : List (String × α)}
    (absent : entries.lookup name = none) :
    (insert name value entries).Perm ((name, value) :: entries) := by
  induction entries with
  | nil => exact List.Perm.refl _
  | cons head tail induction =>
      rcases head with ⟨key, old⟩
      rw [lookup_cons_eq_ite] at absent
      split at absent
      next => cases absent
      next different =>
        simp only [insert, if_neg different]
        split
        · exact List.Perm.refl _
        · exact ((induction absent).cons _).trans (List.Perm.swap _ _ _)

end Ascending

namespace NameMap

variable {α : Type}

@[simp] theorem get?_empty (name : String) : (empty : NameMap α).get? name = none :=
  rfl

theorem get?_insert (map : NameMap α) (name other : String) (value : α) :
    (map.insert name value).get? other = if other = name then some value else map.get? other :=
  Ascending.lookup_insert name other value map.entries

@[simp] theorem contains_empty (name : String) : (empty : NameMap α).contains name = false :=
  rfl

theorem contains_insert (map : NameMap α) (name other : String) (value : α) :
    (map.insert name value).contains other = (decide (other = name) || map.contains other) := by
  unfold contains
  rw [get?_insert]
  by_cases equal : other = name <;> simp [equal]

theorem mem_entries {map : NameMap α} {name : String} {value : α} :
    (name, value) ∈ map.entries ↔ map.get? name = some value :=
  ⟨Ascending.lookup_of_mem map.ascending, Ascending.mem_of_lookup⟩

theorem contains_iff {map : NameMap α} {name : String} :
    map.contains name = true ↔ ∃ value, map.get? name = some value :=
  Option.isSome_iff_exists

theorem contains_eq_false {map : NameMap α} {name : String} :
    map.contains name = false ↔ map.get? name = none := by
  rw [contains, Option.isSome_eq_false_iff, Option.isNone_iff_eq_none]

theorem mem_names {map : NameMap α} {name : String} :
    name ∈ map.names ↔ map.contains name = true := by
  rw [contains_iff, names, List.mem_map]
  constructor
  · rintro ⟨⟨_, value⟩, member, rfl⟩
    exact ⟨value, mem_entries.1 member⟩
  · rintro ⟨value, found⟩
    exact ⟨(name, value), mem_entries.2 found, rfl⟩

theorem contains_foldl_insert (names : List String) (value : α) (map : NameMap α)
    (name : String) :
    (names.foldl (fun map name => map.insert name value) map).contains name =
      (decide (name ∈ names) || map.contains name) := by
  induction names generalizing map with
  | nil => simp
  | cons head tail induction =>
      rw [List.foldl_cons, induction, contains_insert]
      by_cases isHead : name = head <;> simp [isHead]

/-! ## Maps with the same content -/

theorem ext_get? {left right : NameMap α} (same : ∀ name, left.get? name = right.get? name) :
    left = right := by
  have nodup (map : NameMap α) : map.entries.Nodup := by
    apply map.ascending.imp
    intro first second below equal
    exact String.lt_irrefl _ (equal ▸ below)
  have perm : left.entries.Perm right.entries := by
    apply (List.perm_ext_iff_of_nodup (nodup left) (nodup right)).2
    intro entry
    rw [mem_entries, mem_entries, same]
  have equal : left.entries = right.entries := by
    apply perm.eq_of_pairwise _ left.ascending right.ascending
    intro first second _ _ below above
    exact absurd (String.lt_trans below above) (String.lt_irrefl _)
  cases left
  cases right
  simpa using equal

theorem insert_comm (map : NameMap α) {first second : String} {firstValue secondValue : α}
    (agree : first = second → firstValue = secondValue) :
    (map.insert first firstValue).insert second secondValue =
      (map.insert second secondValue).insert first firstValue := by
  apply ext_get?
  intro name
  simp only [get?_insert]
  by_cases isFirst : name = first
  · by_cases isSecond : name = second
    · rw [if_pos isSecond, if_pos isFirst, agree (isFirst.symm.trans isSecond)]
    · rw [if_neg isSecond, if_pos isFirst, if_pos isFirst]
  · simp only [if_neg isFirst]

/-! ## Several entries -/

def extend (map : NameMap α) (entries : List (String × α)) : NameMap α :=
  entries.foldl (fun map entry => map.insert entry.1 entry.2) map

theorem extend_perm (map : NameMap α) {left right : List (String × α)} (perm : left.Perm right)
    (distinct : (left.map Prod.fst).Nodup) : map.extend left = map.extend right := by
  apply perm.foldl_eq'
  intro first inFirst second inSecond map
  apply insert_comm
  intro sameName
  exact congrArg Prod.snd (List.inj_on_of_nodup_map distinct inFirst inSecond sameName)

theorem entries_insert_perm (map : NameMap α) {name : String} (value : α)
    (absent : map.get? name = none) :
    (map.insert name value).entries.Perm ((name, value) :: map.entries) :=
  Ascending.insert_perm value absent

theorem entries_extend_perm (map : NameMap α) {entries : List (String × α)}
    (distinct : (entries.map Prod.fst).Nodup)
    (absent : ∀ entry ∈ entries, map.get? entry.1 = none) :
    (map.extend entries).entries.Perm (entries ++ map.entries) := by
  induction entries generalizing map with
  | nil => exact List.Perm.refl _
  | cons head tail induction =>
      rw [List.map_cons, List.nodup_cons] at distinct
      have absentAbove : ∀ entry ∈ tail, (map.insert head.1 head.2).get? entry.1 = none := by
        intro entry member
        have different : entry.1 ≠ head.1 := fun equal =>
          distinct.1 (equal ▸ List.mem_map_of_mem member)
        rw [get?_insert, if_neg different]
        exact absent entry (List.mem_cons_of_mem _ member)
      calc (map.extend (head :: tail)).entries
        _ = ((map.insert head.1 head.2).extend tail).entries := rfl
        List.Perm _ (tail ++ (map.insert head.1 head.2).entries) :=
          induction _ distinct.2 absentAbove
        List.Perm _ (tail ++ head :: map.entries) :=
          (map.entries_insert_perm head.2 (absent head List.mem_cons_self)).append_left tail
        List.Perm _ (head :: tail ++ map.entries) := List.perm_middle

theorem size_extend (map : NameMap α) {entries : List (String × α)}
    (distinct : (entries.map Prod.fst).Nodup)
    (absent : ∀ entry ∈ entries, map.get? entry.1 = none) :
    (map.extend entries).size = map.size + entries.length := by
  rw [size, size, (map.entries_extend_perm distinct absent).length_eq, List.length_append,
    Nat.add_comm]

theorem get?_extend (map : NameMap α) {entries : List (String × α)}
    (distinct : (entries.map Prod.fst).Nodup)
    (absent : ∀ entry ∈ entries, map.get? entry.1 = none) {name : String} {value : α} :
    (map.extend entries).get? name = some value ↔
      (name, value) ∈ entries ∨ map.get? name = some value := by
  rw [← mem_entries, (map.entries_extend_perm distinct absent).mem_iff, List.mem_append,
    mem_entries]

end NameMap

/-! ## Listed names -/

theorem mem_sortedNames {names : List String} {name : String} :
    name ∈ sortedNames names ↔ name ∈ names := by
  rw [sortedNames, NameMap.mem_names, NameMap.contains_foldl_insert]
  simp

theorem sortedNames_ascending (names : List String) :
    (sortedNames names).Pairwise fun left right => left < right :=
  List.pairwise_map.2 (NameMap.ascending _)

end SchemaBuild
