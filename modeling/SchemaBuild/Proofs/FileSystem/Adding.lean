import SchemaBuild.Proofs.FileSystem.Updating
import SchemaBuild.Proofs.FileSystem.Writing

/-!
# What is added

Making directories and writing a file loses no entry. What is new afterwards is found by one of the
paths for which it was made.
-/

namespace SchemaBuild.FileSystem

variable {files before middle after : FileSystem} {path : Path} {entry : Bytes} {left : Nat}
  {location place : Location} {name : Name} {node : Node}

/-- A path leads, through links as well, to what another path names. -/
def LeadsToEntry (files : FileSystem) (path entry : Bytes) : Prop :=
  ∃ place node, files.locate true path = .ok (.node place node) ∧
    files.locate false entry = .ok (.node place node)

structure Adds (paths : Path → Prop) (before after : FileSystem) : Prop extends
    Retains before after where
  sound : before.Sound → after.Sound
  added : ∀ place node, before.node? place = none → after.node? place = some node →
    ∃ path, paths path ∧ after.locate true path.bytes = .ok (.node place node)

theorem locate_eq_ok {bytes : Bytes} {found : Place} :
    files.locate true bytes = .ok found ↔
      Fits bytes ∧ files.Arrives .target linkLimit (walkNames bytes)
        (walkStart bytes files.working) found := by
  rw [locate, if_pos rfl]
  exact seek_eq_ok (by simp)

theorem Retains.locate {bytes : Bytes} (retains : Retains before after)
    (located : before.locate true bytes = .ok (.node place node)) :
    ∃ later, after.node? place = some later ∧
      after.locate true bytes = .ok (.node place later) := by
  rcases locate_eq_ok.1 located with ⟨fits, arrives⟩
  rcases retains.keeps place node arrives.node? with ⟨later, found, resembles⟩
  have arrivesThere := retains.keeps.arrives (.node resembles) found arrives
  rw [← retains.working] at arrivesThere
  exact ⟨later, found, locate_eq_ok.2 ⟨fits, arrivesThere⟩⟩

theorem Retains.includes (retains : Retains before after) : after.Includes before := by
  intro place passable
  rcases passable.exists_node with ⟨node, found⟩
  rcases retains.entries place node found with ⟨later, foundLater, same⟩
  exact sight?_of_bare passable found foundLater same

theorem Retains.isFound (retains : Retains before after)
    (ends : ∃ name, IsProper name ∧ (pathNames entry).getLast? = some name ∧
      endsInSlash entry = false)
    (found : FileSystem.isFound (before.locate false entry) = true) :
    FileSystem.isFound (after.locate false entry) = true := by
  rcases ends with ⟨name, proper, last, noSlash⟩
  cases located : before.locate false entry with
  | error error => simp [located, FileSystem.isFound] at found
  | ok there =>
      cases there with
      | vacant directory name => simp [located, FileSystem.isFound] at found
      | node place node =>
          rcases reaches_of_locate proper last noSlash located with
            ⟨left, location, reaches, rfl, listed⟩
          rcases retains.entries _ node listed with ⟨later, listedLater, -⟩
          have reachesAfter := reaches.mono retains.includes retains.working
          rw [reachesAfter.locate later listedLater]
          rfl

namespace Adds

variable {paths more : Path → Prop}

theorem refl (paths : Path → Prop) (files : FileSystem) : Adds paths files files := by
  refine ⟨.refl files, id, ?_⟩
  intro place node missing found
  rw [missing] at found
  cases found

theorem trans (first : Adds paths before middle) (second : Adds paths middle after) :
    Adds paths before after := by
  refine ⟨first.toRetains.trans second.toRetains, second.sound ∘ first.sound, ?_⟩
  intro place node missing found
  cases between : middle.node? place with
  | none => exact second.added place node between found
  | some old =>
      rcases first.added place old missing between with ⟨path, isPath, located⟩
      rcases second.toRetains.locate located with ⟨later, foundLater, locatedLater⟩
      rcases Option.some.inj (found.symm.trans foundLater) with rfl
      exact ⟨path, isPath, locatedLater⟩

theorem mono (subset : ∀ path, paths path → more path) (adds : Adds paths before after) :
    Adds more before after := by
  refine ⟨adds.toRetains, adds.sound, ?_⟩
  intro place node missing found
  rcases adds.added place node missing found with ⟨path, isPath, located⟩
  exact ⟨path, subset path isPath, located⟩

/-- What is found at a path where there was nothing is at the end of one of the paths. -/
theorem leadsToEntry (adds : Adds paths before after)
    (reaches : before.Reaches entry left location name)
    (vacant : before.node? (location ++ [name]) = none)
    (found : isFound (after.locate false entry) = true) :
    ∃ path, paths path ∧ after.LeadsToEntry path.bytes entry := by
  have reachesAfter := reaches.mono adds.toRetains.includes adds.working
  cases listed : after.node? (location ++ [name]) with
  | none =>
      rw [FileSystem.locate, if_neg (by decide), reachesAfter.seek_vacant .entry listed] at found
      cases found
  | some node =>
      rcases adds.added _ node vacant listed with ⟨path, isPath, located⟩
      exact ⟨path, isPath, _, node, located, reachesAfter.locate node listed⟩

end Adds

/-! ## Directories that are made -/

theorem Grown.adds (grown : Grown path before after) : Adds (·.IsOnWayTo path) before after := by
  refine ⟨⟨grown.working, by rw [grown.stored], ?_⟩, grown.sound, ?_⟩
  · intro place node found
    rcases grown.sight place with same | ⟨missing, -⟩
    · exact bare_of_sight? same found
    · rw [sight?_eq_none, found] at missing
      cases missing
  · intro place node missing found
    rcases grown.sight place with same | ⟨-, permissions, seen, other, onWay, fits, left, leads⟩
    · rw [sight?_eq_none.2 missing, sight?_eq_none, found] at same
      cases same
    · rcases sight?_eq_directory.1 seen with ⟨entries, isDirectory, -⟩
      rcases leads.walk_target ⟨entries, isDirectory⟩ with ⟨others, walks⟩
      have located : after.locate true other.bytes = .ok (.node place (.directory others)) := by
        rw [locate, if_pos rfl, seek_of_fits fits, walks]
      rcases Option.some.inj (found.symm.trans (node?_of_locate located)) with rfl
      exact ⟨other, onWay, located⟩

/-! ## Files that are written -/

theorem adds_of_changeFile (paths : Path → Prop) (id : FileId) (change : StoredFile → StoredFile) :
    Adds paths files (files.changeFile id change) := by
  refine ⟨.changeFile files id change, fun sound => sound.changeFile id change, ?_⟩
  intro place node missing found
  rw [node?_changeFile, missing] at found
  cases found

/-- Nothing can be put where there is no directory. -/
theorem adds_of_put_nowhere (paths : Path → Prop) {directory : Location} {file : StoredFile}
    (named : IsProper name) (nowhere : ¬files.HasDirectory directory) :
    Adds paths files (files.putFile directory name file) := by
  have same (place : Location) : ((files.putFile directory name file).node? place).map Node.bare =
      (files.node? place).map Node.bare := by
    apply Directory.find?_change_of_missing
    intro inner found
    exact nowhere ⟨inner, found⟩
  refine ⟨⟨rfl, by simp [putFile], ?_⟩, fun sound => sound.putFile named file, ?_⟩
  · intro place node found
    have bare := same place
    rw [found, Option.map_some, Option.map_eq_some_iff] at bare
    exact bare
  · intro place node missing found
    have bare := same place
    rw [found, missing] at bare
    cases bare

theorem adds_of_put (sound : files.Sound) {directory : Location}
    (lacks : files.Lacks directory name)
    (seeks : files.seek .writable path.bytes = .ok (.vacant directory name)) (file : StoredFile) :
    Adds (· = path) files (files.putFile directory name file) := by
  refine ⟨.putFile sound lacks file, fun _ => sound.putFile lacks.named.toIsProper file, ?_⟩
  intro place node missing found
  have located := seek_target (seek_putFile sound lacks seeks file)
  by_cases below : directory ++ [name] <+: place
  · rcases below with ⟨rest, rfl⟩
    have made := found
    rw [node?_putFile, List.append_assoc, List.singleton_append, node?_put_below lacks.has] at made
    cases rest with
    | nil =>
        rcases Option.some.inj made with rfl
        rw [List.append_nil]
        exact ⟨path, rfl, located⟩
    | cons head tail => cases made
  · have seen := sound.sight?_putFile_apart lacks.has file below
    rw [sight?_of_node? found, sight?_eq_none.2 missing] at seen
    cases seen

theorem adds_of_openToWrite (sound : files.Sound) {permissions : Nat} {opened : Opened}
    (opens : files.openToWrite path.bytes permissions = .ok (opened, after)) :
    Adds (· = path) files after := by
  rw [openToWrite] at opens
  cases seeks : files.seek .writable path.bytes with
  | error error => simp [seeks, bind, Except.bind] at opens
  | ok found =>
      simp only [seeks, bind, Except.bind] at opens
      split at opens
      next =>
        rcases Prod.mk.inj (Except.ok.inj opens) with ⟨-, rfl⟩
        exact .refl _ files
      next => cases opens
      next =>
        rcases Prod.mk.inj (Except.ok.inj opens) with ⟨-, rfl⟩
        exact .refl _ files
      next => cases opens
      next => cases opens
      next directory name =>
        rcases (seek_eq_ok (by simp)).1 seeks with ⟨-, arrives⟩
        rcases arrives.vacancy fun _ member => slash_notMem_of_mem_walkNames member with
          ⟨named, missing, -⟩
        split at opens
        · cases opens
        rcases Prod.mk.inj (Except.ok.inj opens) with ⟨-, rfl⟩
        by_cases has : files.HasDirectory directory
        · exact adds_of_put sound ⟨named, has, missing⟩ seeks _
        · exact adds_of_put_nowhere _ named.toIsProper has

theorem adds_of_replace (sound : files.Sound) {content : Content}
    (replaced : files.replace path.bytes content = .ok after) :
    Adds (· = path) files after := by
  rw [replace] at replaced
  cases opens : files.openToWrite path.bytes usualPermissions with
  | error error => simp [opens, bind, Except.bind] at replaced
  | ok pair =>
      rcases pair with ⟨opened, opening⟩
      refine (adds_of_openToWrite sound opens).trans ?_
      simp only [opens, bind, Except.bind] at replaced
      split at replaced
      next id _ same =>
        rcases Prod.mk.inj same with ⟨-, rfl⟩
        exact Except.ok.inj replaced ▸ adds_of_changeFile _ id _
      next same =>
        rcases Prod.mk.inj same with ⟨-, rfl⟩
        split at replaced
        · exact Except.ok.inj replaced ▸ .refl _ _
        · cases replaced
      next same =>
        rcases Prod.mk.inj same with ⟨-, rfl⟩
        split at replaced
        · exact Except.ok.inj replaced ▸ .refl _ _
        · cases replaced
      next same =>
        rcases Prod.mk.inj same with ⟨-, rfl⟩
        exact Except.ok.inj replaced ▸ .refl _ _

end SchemaBuild.FileSystem
