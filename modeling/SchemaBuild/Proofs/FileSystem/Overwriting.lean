import SchemaBuild.Proofs.FileSystem.Adding
import SchemaBuild.Proofs.FileSystem.DeadEnds
import SchemaBuild.Proofs.FileSystem.Renaming

/-!
# Entries replaced by files

What can be opened to write to it leads to a file, and no way goes through it. So where such an
entry takes the place of another one in its directory, a path that reaches an entry before and after
that meets neither of the two places.
-/

namespace SchemaBuild.FileSystem

variable {files before after bare : FileSystem} {path : Bytes} {left otherLeft : Nat}
  {location place : Location} {name other own ownAfter : Name} {node : Node}

/-! ## What is opened -/

theorem endsInFile_of_arrives {links : Nat} (proper : IsProper name)
    (leaf : node.isDirectory = false)
    (arrives : files.Arrives .target links [name] location (.node place node)) :
    files.EndsInFile location name := by
  cases arrives with
  | stay dot => exact (dot.elim proper.notCurrent proper.notEmpty).elim
  | up => exact absurd rfl proper.notParent
  | down _ _ has arrives =>
      cases arrives with
      | here found =>
          rcases has with ⟨entries, isDirectory⟩
          rcases Option.some.inj (found.symm.trans isDirectory) with rfl
          cases leaf
  | follow _ _ text found arrives =>
      rw [List.append_nil] at arrives
      constructor
      · rintro ⟨entries, isDirectory⟩
        rw [found] at isDirectory
        cases isDirectory
      · intro other isLink
        rcases Node.link.inj (Option.some.inj (found.symm.trans isLink)) with rfl
        exact ⟨_, place, node, leaf, arrives⟩
  | leaf _ found noDirectory noLink =>
      constructor
      · rintro ⟨entries, isDirectory⟩
        exact noDirectory entries (Option.some.inj (found.symm.trans isDirectory))
      · intro text isLink
        exact absurd (Option.some.inj (found.symm.trans isLink)) (noLink text)

theorem Arrives.opened {finish : Place} {links : Nat} {names : List Name} {start : Location}
    {permissions : Nat} {opened : Opened} (sound : files.Sound) (has : files.HasDirectory start)
    (noSlash : ∀ name ∈ names, slashByte ∉ name)
    (arrives : files.Arrives .writable links names start finish)
    (seeks : files.seek .writable path = .ok finish)
    (opens : files.openToWrite path permissions = .ok (opened, after)) :
    ∃ place node, node.isDirectory = false ∧
      after.Arrives .target links names start (.node place node) := by
  rw [openToWrite, seeks] at opens
  simp only [bind, Except.bind] at opens
  split at opens
  next =>
    rcases Prod.mk.inj (Except.ok.inj opens) with ⟨-, rfl⟩
    exact ⟨_, _, rfl, arrives.target⟩
  next => cases opens
  next =>
    rcases Prod.mk.inj (Except.ok.inj opens) with ⟨-, rfl⟩
    exact ⟨_, _, rfl, arrives.target⟩
  next => cases opens
  next => cases opens
  next directory entry =>
    split at opens
    · cases opens
    rcases Prod.mk.inj (Except.ok.inj opens) with ⟨-, rfl⟩
    have lacks := arrives.lacks has noSlash
    have retains := Retains.putFile sound lacks { permissions := permissions, time := presentTime }
    have made (file : StoredFile) : (files.putFile directory entry file).node?
        (directory ++ [entry]) = some (.file files.stored.size) := by
      rw [node?_putFile, node?_put_below lacks.has]
      rfl
    exact ⟨_, _, rfl, (retains.keeps.arrives (.file ..) (made _) arrives).target⟩

theorem Reaches.endsInFile (sound : files.Sound)
    (reaches : files.Reaches path left location name) {permissions : Nat} {opened : Opened}
    (opens : files.openToWrite path permissions = .ok (opened, after)) :
    after.EndsInFile location name := by
  cases seeks : files.seek .writable path with
  | error error => simp [openToWrite, seeks, bind, Except.bind] at opens
  | ok finish =>
      have noSlash : ∀ entry ∈ [name], slashByte ∉ entry := by
        intro entry member
        exact List.mem_singleton.1 member ▸ reaches.named.noSlash
      have walks := seeks
      rw [reaches.seek_eq_walk] at walks
      rcases (arrives_of_walk (by simp) walks).opened sound reaches.has noSlash seeks opens with
        ⟨place, node, leaf, arrives⟩
      exact endsInFile_of_arrives reaches.named.toIsProper leaf arrives

theorem EndsInFile.changeFile (ends : files.EndsInFile location name) (id : FileId)
    (change : StoredFile → StoredFile) : (files.changeFile id change).EndsInFile location name := by
  refine ⟨ends.noDirectory, ?_⟩
  intro text found
  rcases ends.arrives text found with ⟨links, place, node, leaf, arrives⟩
  have includes := (Retains.changeFile files id change).includes
  exact ⟨links, place, node, leaf, includes.arrives arrives.node? arrives⟩

/-! ## What takes the place of an entry -/

structure Replaced (location : Location) (name other : Name) (before after : FileSystem) :
    Prop where
  working : after.working = before.working
  has : before.HasDirectory location
  ends : before.EndsInFile location name
  same : after.node? (location ++ [other]) = before.node? (location ++ [name])
  stays : ∀ place node, Apart location [name, other] place → before.node? place = some node →
    ∃ later, after.node? place = some later ∧ later.bare = node.bare

namespace Replaced

variable (replaced : Replaced location name other before after)
include replaced

theorem hasDirectory : after.HasDirectory location := by
  rcases replaced.has with ⟨entries, found⟩
  rcases replaced.stays location _ (apart_self _ _) found with ⟨later, foundLater, same⟩
  cases later with
  | directory others => exact ⟨others, foundLater⟩
  | file | link | device => cases same

theorem retained {later : FileSystem} (retains : Retains after later)
    (still : ∃ node, before.node? (location ++ [name]) = some node) :
    Replaced location name other before later := by
  refine ⟨retains.working.trans replaced.working, replaced.has, replaced.ends, ?_, ?_⟩
  · rcases still with ⟨node, found⟩
    rcases retains.entries _ node (replaced.same.trans found) with ⟨last, foundLast, same⟩
    rw [foundLast, found]
    cases node with
    | directory entries => exact absurd ⟨entries, found⟩ replaced.ends.noDirectory
    | file | link | device => cases last <;> simp_all [Node.bare]
  · intro place node apart found
    rcases replaced.stays place node apart found with ⟨between, foundBetween, same⟩
    rcases retains.entries place between foundBetween with ⟨last, foundLast, sameLast⟩
    exact ⟨last, foundLast, sameLast.trans same⟩

variable (sound : before.Sound) (soundAfter : after.Sound)
include sound soundAfter

theorem agree {there : Location} (passable : (after.erase location other).Passable there)
    (found : (before.erase location name).node? there = some node) :
    (before.erase location name).sight? there = (after.erase location other).sight? there := by
  have apartOther := not_below_of_erased soundAfter replaced.hasDirectory passable.exists_node
  have apartName := not_below_of_erased sound replaced.has ⟨node, found⟩
  have seenBefore := sight?_erase_apart replaced.has apartName
  have seenAfter := sight?_erase_apart replaced.hasDirectory apartOther
  rcases bare_of_sight? seenBefore.symm found with ⟨was, foundWas, -⟩
  rcases replaced.stays there was (apart_pair apartName apartOther) foundWas with
    ⟨later, foundLater, same⟩
  have passableAfter := passable_congr seenAfter.symm passable
  rw [seenBefore, seenAfter]
  exact sight?_of_bare passableAfter foundLater foundWas same.symm

/-- No way goes through what took the place of the other entry. If it is a link, it is not met again
behind it, as it would not have been before. -/
theorem impasse : after.Impasse location other := by
  refine impasse_of_erase replaced.hasDirectory ?_ ?_
  · rintro ⟨entries, found⟩
    rw [replaced.same] at found
    exact replaced.ends.noDirectory ⟨entries, found⟩
  · intro text found links left target leads
    rw [replaced.same] at found
    rcases replaced.ends.arrives_erase replaced.has found with
      ⟨otherLinks, place, node, leaf, arrives⟩
    have start : (after.erase location other).HasDirectory (walkStart text location) := by
      rw [walkStart]
      split
      · exact FileSystem.hasDirectory_nil _
      · exact hasDirectory_congr (sight?_erase_apart replaced.hasDirectory
          (not_below_entry location other)) replaced.hasDirectory
    rcases leads.eq_of_arrives (fun there passable _ found =>
      replaced.agree sound soundAfter passable found) arrives with rfl
    have has := leads.hasDirectory start
    rcases hasDirectory_congr (replaced.agree sound soundAfter (.inl has) arrives.node?) has with
      ⟨entries, isDirectory⟩
    rw [arrives.node?] at isDirectory
    rcases Option.some.inj isDirectory with rfl
    cases leaf

theorem unmet (includes : before.Includes bare) (working : before.working = bare.working)
    (bareSound : bare.Sound) (reaches : bare.Reaches path left location own)
    (reachesAfter : after.Reaches path otherLeft place ownAfter) :
    place = location ∧ ownAfter = own ∧
      ((bare.erase location name).erase location other).Reaches path left location own := by
  have bareImpasse := replaced.ends.impasse.of_includes includes
  have without := bareImpasse.reaches reaches.has reaches
  have withoutAfter :=
    (replaced.impasse sound soundAfter).reaches replaced.hasDirectory reachesAfter
  have afterWorking : (after.erase location other).working = (bare.erase location name).working :=
    replaced.working.trans working
  have stillWorking : ((bare.erase location name).erase location other).working =
      (bare.erase location name).working := rfl
  have agree (there : Location) (passable : (bare.erase location name).Passable there)
      (passableAfter : (after.erase location other).Passable there) :
      (after.erase location other).sight? there = (bare.erase location name).sight? there ∧
        ((bare.erase location name).erase location other).sight? there =
          (bare.erase location name).sight? there := by
    have apartName := not_below_of_erased bareSound reaches.has passable.exists_node
    have apartOther :=
      not_below_of_erased soundAfter replaced.hasDirectory passableAfter.exists_node
    have bareSeen := sight?_erase_apart reaches.has apartName
    have same : (before.erase location name).sight? there =
        (bare.erase location name).sight? there := by
      rw [sight?_erase_apart replaced.has apartName, bareSeen]
      exact includes there (passable_congr bareSeen.symm passable)
    rcases (passable_congr same passable).exists_node with ⟨node, found⟩
    rw [← replaced.agree sound soundAfter passableAfter found, same]
    exact ⟨rfl, sight?_erase_apart without.has apartOther⟩
  rcases without.common agree afterWorking stillWorking withoutAfter with ⟨rfl, rfl, shared⟩
  exact ⟨rfl, rfl, shared⟩

omit sound soundAfter in
theorem includes (includes : before.Includes bare) (bareSound : bare.Sound)
    (has : bare.HasDirectory location) :
    after.Includes ((bare.erase location name).erase location other) := by
  have withoutSound := bareSound.erase location name
  have withoutHas : (bare.erase location name).HasDirectory location :=
    hasDirectory_congr (sight?_erase_apart has (not_below_entry location name)) has
  intro there passable
  have apartOther := not_below_of_erased withoutSound withoutHas passable.exists_node
  have seenOther := sight?_erase_apart withoutHas apartOther
  have passableWithout := passable_congr seenOther.symm passable
  have apartName := not_below_of_erased bareSound has passableWithout.exists_node
  have seenName := sight?_erase_apart has apartName
  have barePassable := passable_congr seenName.symm passableWithout
  have same := includes there barePassable
  have passableBefore := passable_congr same barePassable
  rcases passableBefore.exists_node with ⟨node, found⟩
  rcases replaced.stays there node (apart_pair apartName apartOther) found with
    ⟨later, foundLater, sameBare⟩
  rw [seenOther, seenName, ← same]
  exact sight?_of_bare passableBefore found foundLater sameBare

end Replaced

end SchemaBuild.FileSystem
