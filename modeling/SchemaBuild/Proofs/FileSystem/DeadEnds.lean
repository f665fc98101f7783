import SchemaBuild.Proofs.FileSystem.Keeping

/-!
# Dead ends

No way goes on through a file, nor through a link that leads to one. So such an entry can be taken
away, or put in the place of another one, and all ways that are left are those that never met it.
-/

namespace SchemaBuild.FileSystem

variable {files other : FileSystem} {links left : Nat} {names : List Name}
  {start target location place : Location} {name : Name} {node : Node} {text : Bytes}

/-- A way and a walk along the same names get to the same end, if the walk sees what the way goes
through wherever it sees anything. -/
theorem Leads.eq_of_arrives {sought : Sought} {otherLinks : Nat}
    (agree : ∀ there, files.Passable there → ∀ found, other.node? there = some found →
      other.sight? there = files.sight? there)
    (leads : Leads files links names start left target)
    (arrives : other.Arrives sought otherLinks names start (.node place node)) :
    place = target := by
  induction leads generalizing otherLinks with
  | here =>
      cases arrives
      rfl
  | stay dot leads induction =>
      cases arrives with
      | stay _ arrives => exact induction arrives
      | up => exact absurd dot (by decide)
      | down step | follow step | leaf step => exact (dot.elim step.notCurrent step.notEmpty).elim
  | up leads induction =>
      cases arrives with
      | stay dot => exact absurd dot (by decide)
      | up arrives => exact induction arrives
      | down step | follow step | leaf step => exact absurd rfl step.notParent
  | down step has leads induction =>
      cases arrives with
      | stay dot => exact (dot.elim step.notCurrent step.notEmpty).elim
      | up => exact absurd rfl step.notParent
      | down _ _ _ arrives => exact induction arrives
      | follow _ _ text found =>
          rcases hasDirectory_congr (agree _ (.inl has) _ found) has with ⟨entries, isDirectory⟩
          rw [found] at isDirectory
          cases isDirectory
      | leaf _ found noDirectory =>
          rcases hasDirectory_congr (agree _ (.inl has) _ found) has with ⟨entries, isDirectory⟩
          rw [found] at isDirectory
          exact absurd (Option.some.inj isDirectory) (noDirectory entries)
  | follow step text found leads induction =>
      cases arrives with
      | stay dot => exact (dot.elim step.notCurrent step.notEmpty).elim
      | up => exact absurd rfl step.notParent
      | down _ _ has =>
          rcases has with ⟨entries, isDirectory⟩
          have isLink := link_congr (agree _ (.inr ⟨text, found⟩) _ isDirectory) found
          rw [isDirectory] at isLink
          cases isLink
      | follow _ _ otherText otherFound arrives =>
          have isLink := link_congr (agree _ (.inr ⟨text, found⟩) _ otherFound) found
          rw [otherFound] at isLink
          rcases Node.link.inj (Option.some.inj isLink) with rfl
          exact induction arrives
      | leaf _ otherFound _ noLink =>
          have isLink := link_congr (agree _ (.inr ⟨text, found⟩) _ otherFound) found
          rw [otherFound] at isLink
          exact absurd (Option.some.inj isLink) (noLink text)

/-! ## Entries that no way goes through -/

/-- No way goes through an entry. -/
structure Impasse (files : FileSystem) (location : Location) (name : Name) : Prop where
  noDirectory : ¬files.HasDirectory (location ++ [name])
  deadEnd : ∀ text, files.node? (location ++ [name]) = some (.link text) →
    ∀ links left target, ¬Leads files links (walkNames text) (walkStart text location) left target

/-- A way that follows few links does not go through a link from which no way goes on that follows
fewer. -/
theorem Leads.avoids (has : files.HasDirectory location)
    (noDirectory : ¬files.HasDirectory (location ++ [name])) {limit : Nat}
    (deadEnd : ∀ text, files.node? (location ++ [name]) = some (.link text) →
      ∀ fewer < limit, ∀ left target,
        ¬Leads files fewer (walkNames text) (walkStart text location) left target)
    (few : links ≤ limit) (leads : Leads files links names start left target) :
    Leads (files.erase location name) links names start left target := by
  induction leads with
  | here => exact .here
  | stay dot leads induction => exact .stay dot (induction few)
  | up leads induction => exact .up (induction few)
  | down step atName leads induction =>
      refine .down step (hasDirectory_congr (sight?_erase_apart has ?_) atName) (induction few)
      rintro ⟨rest, same⟩
      rw [← same] at atName
      exact noDirectory atName.above
  | @follow links entry names start left target step text found leads induction =>
      refine .follow step text (link_congr (sight?_erase_apart has ?_) found)
        (induction (Nat.le_of_succ_le few))
      rintro ⟨rest, same⟩
      cases rest with
      | nil =>
          rw [List.append_nil] at same
          rcases List.append_inj' same rfl with ⟨rfl, -⟩
          rcases leads.split with ⟨between, middle, first, -⟩
          exact deadEnd text (same ▸ found) links few between middle first
      | cons head tail =>
          rw [← same] at found
          exact noDirectory (hasDirectory_of_node?_append (by simp) found)

namespace Impasse

theorem leads (impasse : files.Impasse location name) (has : files.HasDirectory location)
    (leads : Leads files links names start left target) :
    Leads (files.erase location name) links names start left target :=
  leads.avoids has impasse.noDirectory (fun text found fewer _ => impasse.deadEnd text found fewer)
    (Nat.le_refl links)

theorem reaches {path : Bytes} {own : Name} (impasse : files.Impasse location name)
    (has : files.HasDirectory location) (reaches : files.Reaches path left place own) :
    (files.erase location name).Reaches path left place own := by
  refine ⟨reaches.named, reaches.last, reaches.noSlash, reaches.fits,
    impasse.leads has reaches.leads, hasDirectory_congr (sight?_erase_apart has ?_) reaches.has⟩
  rintro ⟨rest, rfl⟩
  exact impasse.noDirectory reaches.has.above

/-- It was one as long as there was less. -/
theorem of_includes (includes : other.Includes files) (impasse : other.Impasse location name) :
    files.Impasse location name := by
  constructor
  · intro has
    exact impasse.noDirectory (hasDirectory_congr (includes _ (.inl has)) has)
  · intro text found links left target leads
    exact impasse.deadEnd text (link_congr (includes _ (.inr ⟨text, found⟩)) found) links left
      target (leads.mono includes)

end Impasse

/-- A link is one that could not even be gone through if it were not met again on the way. -/
theorem impasse_of_erase (has : files.HasDirectory location)
    (noDirectory : ¬files.HasDirectory (location ++ [name]))
    (deadEnd : ∀ text, files.node? (location ++ [name]) = some (.link text) →
      ∀ links left target, ¬Leads (files.erase location name) links (walkNames text)
        (walkStart text location) left target) :
    files.Impasse location name := by
  refine ⟨noDirectory, ?_⟩
  intro text found links
  -- A way that meets the link again goes on from there with fewer links to be followed.
  induction links using Nat.strongRecOn with
  | ind links fewerFail =>
      intro left target leads
      apply deadEnd text found links left target
      refine leads.avoids has noDirectory ?_ (Nat.le_refl links)
      intro otherText otherFound fewer less
      rcases Node.link.inj (Option.some.inj (found.symm.trans otherFound)) with rfl
      exact fewerFail fewer less

/-! ## Entries that lead to files -/

structure EndsInFile (files : FileSystem) (location : Location) (name : Name) : Prop where
  noDirectory : ¬files.HasDirectory (location ++ [name])
  arrives : ∀ text, files.node? (location ++ [name]) = some (.link text) →
    ∃ links place node, node.isDirectory = false ∧
      files.Arrives .target links (walkNames text) (walkStart text location) (.node place node)

namespace EndsInFile

variable (ends : files.EndsInFile location name)
include ends

theorem impasse : files.Impasse location name := by
  refine ⟨ends.noDirectory, ?_⟩
  intro text found links left target leads
  rcases ends.arrives text found with ⟨otherLinks, place, node, notDirectory, arrives⟩
  rcases leads.eq_of_arrives (fun _ _ _ _ => rfl) arrives with rfl
  rcases leads.hasDirectory (hasDirectory_walkStart found text) with ⟨entries, isDirectory⟩
  rw [arrives.node?] at isDirectory
  rcases Option.some.inj isDirectory with rfl
  cases notDirectory

/-- A walk to a file does not go through the entry, unless it ends with it. Then the walk from the
entry on follows fewer links. -/
theorem avoids (has : files.HasDirectory location)
    (found : files.node? (location ++ [name]) = some (.link text))
    (notDirectory : node.isDirectory = false) {limit : Nat} (few : links ≤ limit)
    (fromDirectory : files.HasDirectory start)
    (arrives : files.Arrives .target links names start (.node place node)) :
    (files.erase location name).Arrives .target links names start (.node place node) ∨
      ∃ fewer < limit, files.Arrives .target fewer (walkNames text) (walkStart text location)
        (.node place node) := by
  have apart {there : Location} {entry : Node} (listed : files.node? there = some entry)
      (noLink : ∀ target, entry ≠ .link target) : ¬location ++ [name] <+: there := by
    rintro ⟨rest, rfl⟩
    cases rest with
    | nil =>
        rw [List.append_nil, found] at listed
        exact noLink text (Option.some.inj listed).symm
    | cons head tail => exact ends.noDirectory (hasDirectory_of_node?_append (by simp) listed)
  generalize same : Place.node place node = finish at arrives
  induction arrives with
  | here listed =>
      rcases fromDirectory with ⟨entries, isDirectory⟩
      rw [listed] at isDirectory
      rcases Place.node.inj same with ⟨rfl, rfl⟩
      rcases Option.some.inj isDirectory with rfl
      cases notDirectory
  | stay dot _ induction => exact (induction few fromDirectory same).imp_left (.stay dot)
  | up _ induction => exact (induction few fromDirectory.dropLast same).imp_left .up
  | down step asked atName _ induction =>
      rcases atName with ⟨entries, listed⟩
      have stays := hasDirectory_congr (sight?_erase_apart has (apart listed (by simp)))
        ⟨entries, listed⟩
      exact (induction few ⟨entries, listed⟩ same).imp_left (.down step asked stays)
  | @follow links entry names start finish step asked otherText listed arrives induction =>
      by_cases atEntry : start ++ [entry] = location ++ [name]
      · rcases List.append_inj' atEntry rfl with ⟨rfl, -⟩
        rw [atEntry, found] at listed
        rcases Node.link.inj (Option.some.inj listed) with rfl
        cases names with
        | nil =>
            rw [List.append_nil] at arrives
            exact .inr ⟨links, few, same ▸ arrives⟩
        | cons head tail =>
            rcases leads_of_walk (by simp) (arrives.walk (by simp)) with ⟨left, target, leads, -⟩
            exact absurd leads (ends.impasse.deadEnd text found links left target)
      · have notBelow : ¬location ++ [name] <+: start ++ [entry] := by
          rintro ⟨rest, equal⟩
          cases rest with
          | nil => exact atEntry (by rw [← equal, List.append_nil])
          | cons head tail =>
              rw [← equal] at listed
              exact ends.noDirectory (hasDirectory_of_node?_append (by simp) listed)
        have stays := link_congr (sight?_erase_apart has notBelow) listed
        exact (induction (Nat.le_of_succ_le few) (hasDirectory_walkStart listed otherText)
          same).imp_left (.follow step asked otherText stays)
  | @leaf _ _ _ entry step listed noDirectory noLink =>
      left
      rcases bare_of_sight? (sight?_erase_apart has (apart listed noLink)) listed with
        ⟨later, stays, sameBare⟩
      have equal : later = entry := by
        cases entry <;> cases later <;> simp_all [Node.bare]
      exact .leaf step (equal ▸ stays) noDirectory noLink
  | vacant => cases same

/-- A link that leads to a file leads there without being met again. -/
theorem arrives_erase (has : files.HasDirectory location)
    (found : files.node? (location ++ [name]) = some (.link text)) :
    ∃ links place node, node.isDirectory = false ∧ (files.erase location name).Arrives .target links
      (walkNames text) (walkStart text location) (.node place node) := by
  rcases ends.arrives text found with ⟨links, place, node, notDirectory, arrives⟩
  induction links using Nat.strongRecOn with
  | ind links fewerArrive =>
      rcases ends.avoids has found notDirectory (Nat.le_refl links)
          (hasDirectory_walkStart found text) arrives with without | ⟨fewer, less, sooner⟩
      · exact ⟨links, place, node, notDirectory, without⟩
      · exact fewerArrive fewer less sooner

end EndsInFile

end SchemaBuild.FileSystem
