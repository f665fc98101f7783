import SchemaBuild.Proofs.FileSystem.Growth
import SchemaBuild.Proofs.FileSystem.Removal

/-!
# What is taken away

Removing takes entries away and leaves the others as they are, whatever path it is done by.
-/

namespace SchemaBuild.FileSystem

variable {files before middle after : FileSystem} {path : Bytes} {location : Location}
  {name : Name}

/-- What is still there is as it was. -/
structure Shrunk (before after : FileSystem) : Prop where
  working : after.working = before.working
  sound : before.Sound → after.Sound
  sight : ∀ place, after.sight? place = none ∨ after.sight? place = before.sight? place

namespace Shrunk

theorem refl (files : FileSystem) : Shrunk files files :=
  ⟨rfl, id, fun _ => .inr rfl⟩

theorem trans (first : Shrunk before middle) (second : Shrunk middle after) :
    Shrunk before after := by
  refine ⟨second.working.trans first.working, second.sound ∘ first.sound, ?_⟩
  intro place
  rcases second.sight place with gone | same
  · exact .inl gone
  · rw [same]
    exact first.sight place

theorem includes (shrunk : Shrunk before after) : before.Includes after := by
  intro place passable
  rcases shrunk.sight place with gone | same
  · exact absurd passable (not_passable_of_missing (sight?_eq_none.1 gone))
  · exact same.symm

theorem hasDirectory (shrunk : Shrunk before after) (has : before.HasDirectory location) :
    after.node? location = none ∨ after.HasDirectory location := by
  rcases shrunk.sight location with gone | same
  · exact .inl (sight?_eq_none.1 gone)
  · exact .inr (hasDirectory_congr same has)

theorem erase (sound : files.Sound) (has : files.HasDirectory location) (name : Name) :
    Shrunk files (files.erase location name) := by
  refine ⟨rfl, fun _ => sound.erase location name, ?_⟩
  intro place
  by_cases below : location ++ [name] <+: place
  · rcases below with ⟨rest, rfl⟩
    rw [List.append_assoc, List.singleton_append, sight?_eq_none]
    exact .inl (sound.node?_erase_below has name rest)
  · exact .inr (sight?_erase_apart has below)

theorem emptied (has : files.HasDirectory location) : Shrunk files (files.emptied location) := by
  refine ⟨rfl, fun sound => sound.emptied location, ?_⟩
  intro place
  by_cases below : ∃ rest ≠ [], place = location ++ rest
  · rcases below with ⟨rest, notHere, rfl⟩
    rw [sight?_eq_none]
    exact .inl (node?_emptied_below has notHere)
  · right
    apply sight?_emptied_apart has
    rintro rest notHere rfl
    exact below ⟨rest, notHere, rfl⟩

end Shrunk

/-! ## Removing -/

theorem unlink_shrunk (sound : files.Sound) (removed : files.unlink path = .ok after) :
    Shrunk files after := by
  rw [unlink] at removed
  cases slotted : files.slot path with
  | error error => simp [slotted, bind, Except.bind] at removed
  | ok slot =>
      simp only [slotted, bind, Except.bind] at removed
      split at removed
      next own last =>
        have has := (leads_of_slot slotted last).2.1
        split at removed
        · cases removed
        split at removed
        · cases removed
        · cases removed
        · split at removed
          · cases removed
          · exact Except.ok.inj removed ▸ .erase sound has own
      next => cases removed

theorem removeDirectory_shrunk (sound : files.Sound)
    (removed : files.removeDirectory path = .ok after) : Shrunk files after := by
  rw [removeDirectory] at removed
  cases slotted : files.slot path with
  | error error => simp [slotted, bind, Except.bind] at removed
  | ok slot =>
      simp only [slotted, bind, Except.bind] at removed
      split at removed
      next own last =>
        have has := (leads_of_slot slotted last).2.1
        split at removed
        · cases removed
        split at removed
        · cases removed
        · split at removed
          · exact Except.ok.inj removed ▸ .erase sound has own
          · cases removed
        · cases removed
      all_goals cases removed

theorem change_shrunk {operation : FileSystem → Except FileError FileSystem}
    (shrinks : ∀ after, operation files = .ok after → Shrunk files after) :
    Shrunk files (outcome (FileOperation.change operation) files).2 := by
  rw [FileOperation.outcome_change]
  split
  next after changed => exact shrinks after changed
  next => exact .refl files

theorem removeTree_shrunk (sound : files.Sound) (path : Bytes) :
    Shrunk files (outcome (FileOperation.removeTree path) files).2 := by
  rw [FileOperation.removeTree, outcome_bind, FileOperation.outcome_look]
  cases located : files.locate false path with
  | error error => exact .refl files
  | ok place =>
      cases place with
      | vacant directory own => exact .refl files
      | node place node =>
          cases node with
          | file | device => exact .refl files
          | link target => exact change_shrunk fun _ => unlink_shrunk sound
          | directory entries =>
              have emptied : Shrunk files (files.emptied place) :=
                .emptied ⟨entries, node?_of_locate located⟩
              simp only
              rw [outcome_bind, outcome_modify]
              exact emptied.trans
                (change_shrunk fun _ => removeDirectory_shrunk (emptied.sound sound))

/-- A path that does not need what is below its end reaches where it did when a tree was removed
there. -/
theorem Reaches.removeTree_apart {core : FileSystem} {left : Nat} (sound : files.Sound)
    (includes : files.Includes core) (working : files.working = core.working)
    (apart : ∀ place, core.Passable place → ¬location ++ [name] <+: place)
    (reaches : core.Reaches path left location name) :
    (outcome (FileOperation.removeTree path) files).2.Reaches path left location name := by
  have there := reaches.mono includes working
  generalize removed : outcome (FileOperation.removeTree path) files = attempt
  rcases attempt with ⟨result, after⟩
  have changed := (there.removeTree sound removed).1
  refine reaches.mono ?_ (changed.working.trans working)
  intro place passable
  exact (changed.sight place (apart_singleton.2 (apart place passable))).trans
    (includes place passable)

/-! ## Removing what is a directory, if it is there -/

/-- Nothing is at the end of a path, whether the path leads so far or not. -/
def Clear (files : FileSystem) (path : Bytes) : Prop :=
  ∀ left location name, files.Reaches path left location name →
    files.node? (location ++ [name]) = none

def DirectoryAtMost (files : FileSystem) (path : Bytes) : Prop :=
  ∀ left location name, files.Reaches path left location name →
    files.node? (location ++ [name]) = none ∨ files.HasDirectory (location ++ [name])

theorem clear_of_removeTree (sound : files.Sound) (only : files.DirectoryAtMost path) :
    (outcome (FileOperation.removeTree path) files).2.Clear path := by
  have shrunk := removeTree_shrunk sound path
  generalize removed : outcome (FileOperation.removeTree path) files = attempt at shrunk
  rcases attempt with ⟨result, after⟩
  intro left location name reachesAfter
  have reaches := reachesAfter.mono shrunk.includes shrunk.working.symm
  rcases (reaches.removeTree sound removed).2 left location name reachesAfter with
    ⟨gone, -⟩ | ⟨-, rfl, noDirectory⟩
  · exact gone
  · exact (only left location name reaches).resolve_right noDirectory

end SchemaBuild.FileSystem
