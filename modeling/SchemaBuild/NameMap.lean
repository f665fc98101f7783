/-!
# Maps from names

A finite map whose entries ascend strictly by name, so that listing it depends on nothing but
what it holds. Names compare character by character.
-/

namespace SchemaBuild

namespace Ascending

def insert {α : Type} (name : String) (value : α) : List (String × α) → List (String × α)
  | [] => [(name, value)]
  | (other, old) :: rest =>
      if name < other then (name, value) :: (other, old) :: rest
      else if name = other then (name, value) :: rest
      else (other, old) :: insert name value rest

theorem fst_mem_insert {α : Type} {name key : String} {value item : α}
    {entries : List (String × α)} (member : (key, item) ∈ insert name value entries) :
    key = name ∨ ∃ old, (key, old) ∈ entries := by
  induction entries with
  | nil =>
      simp only [insert, List.mem_singleton, Prod.mk.injEq] at member
      exact .inl member.1
  | cons head tail induction =>
      obtain ⟨other, old⟩ := head
      simp only [insert] at member
      split at member
      · rcases List.mem_cons.1 member with equal | inOld
        · exact .inl (Prod.mk.inj equal).1
        · exact .inr ⟨item, inOld⟩
      · split at member
        · rcases List.mem_cons.1 member with equal | inTail
          · exact .inl (Prod.mk.inj equal).1
          · exact .inr ⟨item, List.mem_cons_of_mem _ inTail⟩
        · rcases List.mem_cons.1 member with equal | inRest
          · exact .inr ⟨item, by simp [equal]⟩
          · rcases induction inRest with equal | ⟨older, inTail⟩
            · exact .inl equal
            · exact .inr ⟨older, List.mem_cons_of_mem _ inTail⟩

theorem pairwise_insert {α : Type} (name : String) (value : α) {entries : List (String × α)}
    (ascending : entries.Pairwise fun left right => left.1 < right.1) :
    (insert name value entries).Pairwise fun left right => left.1 < right.1 := by
  induction entries with
  | nil => simp [insert]
  | cons head tail induction =>
      obtain ⟨other, old⟩ := head
      have parts := List.pairwise_cons.1 ascending
      simp only [insert]
      split
      next below =>
        refine List.pairwise_cons.2 ⟨fun entry member => ?_, ascending⟩
        rcases List.mem_cons.1 member with equal | inTail
        · exact equal ▸ below
        · exact String.lt_trans below (parts.1 entry inTail)
      next notBelow =>
        split
        next equal =>
          exact List.pairwise_cons.2 ⟨fun entry member => equal ▸ parts.1 entry member, parts.2⟩
        next different =>
          have above : other < name := by
            rcases Std.lt_trichotomy name other with below | equal | above
            · exact absurd below notBelow
            · exact absurd equal different
            · exact above
          refine List.pairwise_cons.2 ⟨fun entry member => ?_, induction parts.2⟩
          rcases fst_mem_insert member with equal | ⟨older, inTail⟩
          · exact equal ▸ above
          · exact parts.1 (entry.1, older) inTail

end Ascending

/-- A map from names, with its entries in ascending order. -/
structure NameMap (α : Type) where
  entries : List (String × α)
  ascending : entries.Pairwise fun left right => left.1 < right.1

namespace NameMap

variable {α : Type}

def empty : NameMap α :=
  ⟨[], .nil⟩

def get? (map : NameMap α) (name : String) : Option α :=
  map.entries.lookup name

def insert (map : NameMap α) (name : String) (value : α) : NameMap α :=
  ⟨Ascending.insert name value map.entries, Ascending.pairwise_insert name value map.ascending⟩

def contains (map : NameMap α) (name : String) : Bool :=
  (map.get? name).isSome

def size (map : NameMap α) : Nat :=
  map.entries.length

def names (map : NameMap α) : List String :=
  map.entries.map Prod.fst

def values (map : NameMap α) : List α :=
  map.entries.map Prod.snd

end NameMap

def sortedNames (names : List String) : List String :=
  (names.foldl (fun map name => map.insert name ()) (NameMap.empty : NameMap Unit)).names

end SchemaBuild
