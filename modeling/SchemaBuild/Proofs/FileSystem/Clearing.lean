import SchemaBuild.Proofs.FileSystem.Overwriting
import SchemaBuild.Proofs.FileSystem.Shrinking

/-!
# Paths that stay clear

A directory that was made where nothing was is removed by its path again. In between, the way to it
may have been changed: by what was removed, by a directory that replaced another one, or by a file
that did. The path either leads to where the directory was, or to nothing, and it does not lead
elsewhere when more is there.
-/

namespace SchemaBuild.FileSystem

variable {files bare middle after : FileSystem} {path target : Bytes} {left otherLeft : Nat}
  {location place : Location} {name own other otherName : Name} {node : Node}

/-! ## Directories that were made -/

structure Furnished (path : Bytes) (bare files : FileSystem) (left : Nat) (location : Location)
    (name : Name) : Prop where
  bareSound : bare.Sound
  reaches : bare.Reaches path left location name
  vacant : bare.node? (location ++ [name]) = none
  includes : files.Includes bare
  working : files.working = bare.working
  sound : files.Sound
  has : files.HasDirectory (location ++ [name])

namespace Furnished

variable (furnished : Furnished path bare files left location name)
include furnished

theorem there : files.Reaches path left location name :=
  furnished.reaches.mono furnished.includes furnished.working

theorem apart (passable : bare.Passable place) : ¬location ++ [name] <+: place :=
  not_below_of_vacant furnished.vacant passable.exists_node

theorem adds {paths : Path → Prop} (adds : Adds paths files after) :
    Furnished path bare after left location name := by
  have retains := adds.toRetains
  refine ⟨furnished.bareSound, furnished.reaches, furnished.vacant, ?_,
    retains.working.trans furnished.working, adds.sound furnished.sound,
    retains.keeps.hasDirectory furnished.has⟩
  intro there passable
  have same := furnished.includes there passable
  exact (retains.includes there (passable_congr same passable)).trans same

theorem directoryAtMost (shrunk : Shrunk files after) : after.DirectoryAtMost path := by
  intro otherLeft place own reaches
  have reachesThere := reaches.mono shrunk.includes shrunk.working.symm
  rcases furnished.there.unique reachesThere with ⟨rfl, rfl, rfl⟩
  exact shrunk.hasDirectory furnished.has

theorem without (shrunk : Shrunk files after)
    (there : after.Reaches path otherLeft place own) :
    place = location ∧ own = name ∧
      (after.erase location name).Reaches path left location name := by
  refine furnished.reaches.without (fun place passable passableAfter => ?_)
    (shrunk.working.trans furnished.working) furnished.vacant there
  rcases shrunk.sight place with gone | same
  · exact absurd passableAfter (not_passable_of_missing (sight?_eq_none.1 gone))
  · exact same.trans (furnished.includes place passable)

end Furnished

/-! ## Paths that are clear -/

structure Settled (files : FileSystem) (path : Bytes) : Prop where
  clear : files.Clear path
  reaches : ∀ {after : FileSystem} {left : Nat} {location : Location} {name : Name},
    Retains files after → after.Sound → after.Reaches path left location name →
      ∃ left location name, files.Reaches path left location name

theorem settled_of_reaches (clear : files.Clear path)
    (reaches : files.Reaches path left location name) : files.Settled path :=
  ⟨clear, fun _ _ _ => ⟨left, location, name, reaches⟩⟩

theorem settled_of_vacant (reaches : files.Reaches path left location name)
    (vacant : files.node? (location ++ [name]) = none) : files.Settled path := by
  refine settled_of_reaches (fun otherLeft place own reachesThere => ?_) reaches
  rcases reaches.unique reachesThere with ⟨rfl, rfl, rfl⟩
  exact vacant

section

variable (ends : ∃ name, IsProper name ∧ (pathNames path).getLast? = some name ∧
  endsInSlash path = false)
include ends

theorem Clear.isFound (clear : files.Clear path) :
    FileSystem.isFound (files.locate false path) = false := by
  rcases ends with ⟨name, proper, last, noSlash⟩
  cases located : files.locate false path with
  | error error => rfl
  | ok place =>
      cases place with
      | vacant directory name => rfl
      | node place node =>
          rcases reaches_of_locate proper last noSlash located with
            ⟨left, location, reaches, rfl, found⟩
          rw [clear left location name reaches] at found
          cases found

theorem Settled.isFound {paths : Path → Prop} (settled : files.Settled path)
    (adds : Adds paths files after) (sound : after.Sound)
    (apart : ∀ path', paths path' → ¬after.LeadsToEntry path'.bytes path) :
    FileSystem.isFound (after.locate false path) = false := by
  refine Clear.isFound ends fun left location name reaches => ?_
  rcases settled.reaches adds.toRetains sound reaches with ⟨otherLeft, place, own, before⟩
  have vacant := settled.clear otherLeft place own before
  rcases (before.mono adds.toRetains.includes adds.working).unique reaches with ⟨rfl, rfl, rfl⟩
  cases listed : after.node? (location ++ [name]) with
  | none => rfl
  | some node =>
      have found : FileSystem.isFound (after.locate false path) = true := by
        rw [reaches.locate node listed]
        rfl
      rcases adds.leadsToEntry before vacant found with ⟨path', isPath, leads⟩
      exact absurd leads (apart path' isPath)

end

/-! ## Ways to get there -/

namespace Furnished

variable (furnished : Furnished path bare files left location name)
include furnished

theorem settled (shrunk : Shrunk files middle)
    (there : middle.Reaches path otherLeft place own) :
    (outcome (FileOperation.removeTree path) middle).2.Settled path := by
  have sound := shrunk.sound furnished.sound
  rcases furnished.without shrunk there with ⟨rfl, rfl, without⟩
  have includes := (ChangedIn.refl place [own] middle).includes_erase sound there.has
  refine settled_of_reaches (clear_of_removeTree sound (furnished.directoryAtMost shrunk))
    (without.removeTree_apart sound includes rfl fun _ passable => ?_)
  exact not_below_of_erased sound there.has passable.exists_node

theorem settled_of_moved (shrunk : Shrunk files middle) {old new : Slot}
    (moved : Moved path target middle after old new own otherName node) :
    (outcome (FileOperation.removeTree path) after).2.Settled path := by
  have sound := shrunk.sound furnished.sound
  rcases reaches_of_slot furnished.reaches.named furnished.reaches.last furnished.reaches.noSlash
    moved.slot with ⟨otherLeft, there⟩
  rcases furnished.without shrunk there with ⟨same, -, without⟩
  have sameName := (leads_of_slot moved.slot moved.last).2.2.1
  rcases Option.some.inj (sameName.symm.trans furnished.reaches.last) with rfl
  have isDirectory : node.isDirectory = true := by
    have found := moved.found
    rw [same] at found
    rcases shrunk.hasDirectory furnished.has with gone | ⟨entries, isDirectory⟩
    · rw [gone] at found
      cases found
    · rcases Option.some.inj (found.symm.trans isDirectory) with rfl
      rfl
  rcases moved.leaves sound isDirectory (same ▸ there.has) without with ⟨reaches, vacant⟩
  have unchanged : outcome (FileOperation.removeTree path) after = (.error .notFound, after) := by
    rw [reaches.outcome_removeTree, vacant]
  rw [unchanged]
  exact settled_of_vacant reaches vacant

theorem settled_of_replaced {entry : Name} (replaced : Replaced location entry other files after)
    (soundAfter : after.Sound) (entryOther : name ≠ entry) (otherOther : name ≠ other)
    (still : ∃ node, files.node? (location ++ [entry]) = some node) :
    (outcome (FileOperation.removeTree path) after).2.Settled path := by
  have reachesAny {later : FileSystem} (replaced : Replaced location entry other files later)
      (sound : later.Sound) {otherLeft : Nat} {place : Location} {own : Name}
      (reaches : later.Reaches path otherLeft place own) :=
    replaced.unmet furnished.sound sound furnished.includes furnished.working furnished.bareSound
      furnished.reaches reaches
  have has := furnished.reaches.has
  have atMost : after.DirectoryAtMost path := by
    intro otherLeft place own reaches
    rcases reachesAny replaced soundAfter reaches with ⟨rfl, rfl, -⟩
    rcases furnished.has with ⟨entries, found⟩
    have apart : Apart place [entry, other] (place ++ [own]) :=
      apart_other (by simp [entryOther, otherOther]) []
    rcases replaced.stays _ _ apart found with ⟨later, foundLater, same⟩
    cases later with
    | directory others => exact .inr ⟨others, foundLater⟩
    | file | link | device => cases same
  refine ⟨clear_of_removeTree soundAfter atMost, fun retains sound reaches => ?_⟩
  -- The path reaches its end without the two entries that were changed, so it does so already.
  have core : ((bare.erase location entry).erase location other).Reaches path left location
      name := by
    by_cases reached : ∃ otherLeft place, after.Reaches path otherLeft place name
    · rcases reached with ⟨otherLeft, place, there⟩
      exact (reachesAny replaced soundAfter there).2.2
    · have named := furnished.reaches.named
      rcases removeTree_unreached named.toIsProper furnished.reaches.last furnished.reaches.noSlash
        reached with ⟨error, unchanged⟩
      rw [unchanged] at retains
      exact (reachesAny (replaced.retained retains still) sound reaches).2.2
  refine ⟨left, location, name, core.removeTree_apart soundAfter
    (replaced.includes furnished.includes furnished.bareSound has)
    (replaced.working.trans furnished.working) fun place passable => furnished.apart ?_⟩
  have withoutHas : (bare.erase location entry).HasDirectory location :=
    (ChangedIn.erase furnished.bareSound has entry).hasDirectory has
  have withoutEntry := (ChangedIn.refl location [entry] bare).includes_erase furnished.bareSound has
  have withoutBoth := (ChangedIn.refl location [other] (bare.erase location entry)).includes_erase
    (furnished.bareSound.erase location entry) withoutHas
  have passableEntry := passable_congr (withoutBoth place passable) passable
  exact passable_congr (withoutEntry place passableEntry) passableEntry

end Furnished

end SchemaBuild.FileSystem
