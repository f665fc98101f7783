import SchemaBuild.Proofs.FileSystem.Operations

/-!
# Removing trees

Removing what stands under a name of a directory changes nothing elsewhere. It is gone afterwards,
unless the path of the directory itself ran through it, so that it cannot be walked any more.
-/

namespace SchemaBuild.FileSystem

variable {files before middle after : FileSystem} {directory : Bytes} {left : Nat}
  {location : Location} {name : Name}

/-! ## Changes of some entries -/

/-- A location that is neither one of some entries of a directory nor below one. -/
def Apart (location : Location) (names : List Name) (place : Location) : Prop :=
  ∀ name ∈ names, ¬location ++ [name] <+: place

theorem apart_singleton {place : Location} :
    Apart location [name] place ↔ ¬location ++ [name] <+: place := by
  simp [Apart]

theorem Apart.mono {names more : List Name} {place : Location} (subset : names ⊆ more)
    (apart : Apart location more place) : Apart location names place :=
  fun name member => apart name (subset member)

theorem apart_self (location : Location) (names : List Name) : Apart location names location :=
  fun name _ => not_below_entry location name

theorem apart_other {names : List Name} (notMember : name ∉ names) (rest : Location) :
    Apart location names (location ++ name :: rest) := by
  intro other member within
  rw [List.prefix_append_right_inj, List.cons_prefix_cons] at within
  exact notMember (within.1 ▸ member)

theorem apart_pair {other : Name} {place : Location} (first : ¬location ++ [name] <+: place)
    (second : ¬location ++ [other] <+: place) : Apart location [name, other] place := by
  simp [Apart, first, second]

theorem exists_of_not_apart {names : List Name} {place : Location}
    (within : ¬Apart location names place) :
    ∃ name ∈ names, ∃ rest, place = location ++ name :: rest := by
  simp only [Apart, Classical.not_forall, Classical.not_not] at within
  obtain ⟨name, member, rest, rfl⟩ := within
  exact ⟨name, member, rest, by simp⟩

theorem not_below_of_vacant {place : Location} (vacant : files.node? (location ++ [name]) = none)
    (there : ∃ node, files.node? place = some node) : ¬location ++ [name] <+: place := by
  rintro ⟨rest, rfl⟩
  obtain ⟨node, found⟩ := there
  rw [node?_append, vacant] at found
  cases found

theorem not_below_of_erased {place : Location} (sound : files.Sound)
    (has : files.HasDirectory location)
    (there : ∃ node, (files.erase location name).node? place = some node) :
    ¬location ++ [name] <+: place :=
  not_below_of_vacant (sound.node?_erase_below has name []) there

/-- Nothing was changed but entries with some names in the directory at a location, and what is
below them. -/
structure ChangedIn (location : Location) (names : List Name) (before after : FileSystem) :
    Prop where
  working : after.working = before.working
  views : after.views = before.views
  sound : before.Sound → after.Sound
  sight : ∀ place, Apart location names place → after.sight? place = before.sight? place

namespace ChangedIn

variable {names more : List Name}

theorem refl (location : Location) (names : List Name) (files : FileSystem) :
    ChangedIn location names files files :=
  ⟨rfl, rfl, id, fun _ _ => rfl⟩

theorem trans (first : ChangedIn location names before middle)
    (second : ChangedIn location names middle after) : ChangedIn location names before after :=
  ⟨second.working.trans first.working, second.views.trans first.views, second.sound ∘ first.sound,
    fun place apart => (second.sight place apart).trans (first.sight place apart)⟩

theorem mono (subset : names ⊆ more) (changed : ChangedIn location names before after) :
    ChangedIn location more before after :=
  ⟨changed.working, changed.views, changed.sound,
    fun place apart => changed.sight place (apart.mono subset)⟩

theorem erase (sound : files.Sound) (has : files.HasDirectory location) (name : Name) :
    ChangedIn location [name] files (files.erase location name) :=
  ⟨rfl, rfl, fun _ => sound.erase location name,
    fun _ apart => sight?_erase_apart has (apart_singleton.1 apart)⟩

theorem put (has : files.HasDirectory location) (proper : IsProper name) {node : Node}
    (nodeSound : files.Sound → node.Sound files.stored.size) :
    ChangedIn location [name] files (files.put location name node) :=
  ⟨rfl, rfl, fun sound => sound.put proper (nodeSound sound),
    fun _ apart => sight?_put_apart has (apart_singleton.1 apart)⟩

theorem emptied (has : files.HasDirectory (location ++ [name])) :
    ChangedIn location [name] files (files.emptied (location ++ [name])) := by
  refine ⟨rfl, rfl, fun sound => sound.emptied _, fun place apart => ?_⟩
  refine sight?_emptied_apart has fun rest _ => ?_
  rintro rfl
  exact apart_singleton.1 apart (List.prefix_append _ _)

theorem takesEntries (changed : ChangedIn location names before after) (place : Location) :
    after.takesEntries place = before.takesEntries place := by
  rw [FileSystem.takesEntries, FileSystem.takesEntries, changed.views]

theorem hasDirectory (changed : ChangedIn location names before after)
    (has : before.HasDirectory location) : after.HasDirectory location :=
  hasDirectory_congr (changed.sight location (apart_self location names)) has

theorem linked (sound : files.Sound) (has : files.HasDirectory location) (proper : IsProper name)
    (target : Bytes) :
    ChangedIn location [name] files
      ((files.erase location name).put location name (.link target)) := by
  have erased := ChangedIn.erase sound has name
  have linkSound : (Node.link target).Sound files.stored.size := by
    rw [Node.Sound]
    trivial
  exact erased.trans (.put (erased.hasDirectory has) proper fun _ => linkSound)

theorem includes_erase (changed : ChangedIn location [name] files after) (sound : files.Sound)
    (has : files.HasDirectory location) : after.Includes (files.erase location name) := by
  intro place passable
  have apart := not_below_of_erased sound has passable.exists_node
  rw [changed.sight place (apart_singleton.2 apart), sight?_erase_apart has apart]

theorem enters_of_erase (changed : ChangedIn location [name] files after) (sound : files.Sound)
    (has : files.HasDirectory location) {found : Location}
    (enters : (files.erase location name).Enters directory left found) :
    after.Enters directory left found :=
  enters.mono (changed.includes_erase sound has) changed.working

/-- What was changed cannot be gone through before and after, so a path that can be entered before
and after leads to the same directory. -/
theorem unique (changed : ChangedIn location names before after)
    (closed : ∀ name ∈ names, ∀ rest, before.Passable (location ++ name :: rest) →
      ¬after.Passable (location ++ name :: rest))
    {otherLeft : Nat} {found other : Location} (enters : before.Enters directory left found)
    (entersAfter : after.Enters directory otherLeft other) : other = found ∧ otherLeft = left := by
  have agree (place : Location) (passable : before.Passable place)
      (stillPassable : after.Passable place) : after.sight? place = before.sight? place ∧
        before.sight? place = before.sight? place := by
    refine ⟨changed.sight place ?_, rfl⟩
    rintro name member ⟨rest, rfl⟩
    rw [List.append_assoc, List.singleton_append] at passable stillPassable
    exact closed name member rest passable stillPassable
  obtain ⟨rfl, -⟩ := enters.common agree changed.working rfl entersAfter
  exact ⟨rfl, (enters.leads.common agree (changed.working ▸ entersAfter.leads)).2.1⟩

end ChangedIn

theorem not_passable_of_vacant (vacant : files.node? (location ++ [name]) = none)
    (rest : Location) : ¬files.Passable (location ++ name :: rest) := by
  intro passable
  exact not_below_of_vacant vacant passable.exists_node ⟨rest, by simp⟩

theorem not_passable_of_file {id : FileId}
    (isFile : files.node? (location ++ [name]) = some (.file id)) (rest : Location) :
    ¬files.Passable (location ++ name :: rest) := by
  have below : files.node? (location ++ name :: rest) = (Node.file id).find? rest := by
    rw [← List.singleton_append, ← List.append_assoc, node?_append, isFile, Option.bind_some]
  rintro (⟨entries, found⟩ | ⟨text, found⟩) <;> rw [below] at found <;> cases rest <;> cases found

/-- The path of a directory does not run through an entry of the directory, so that it can be
walked without this entry. -/
def Spares (files : FileSystem) (directory : Bytes) (name : Name) : Prop :=
  ∀ left location, files.Enters directory left location →
    (files.erase location name).Enters directory left location

theorem Spares.enters (spares : files.Spares directory name)
    (changed : ChangedIn location [name] files after) (sound : files.Sound)
    (enters : files.Enters directory left location) : after.Enters directory left location :=
  changed.enters_of_erase sound enters.has (spares left location enters)

/-- The way stays when the entry becomes something else, then everything that ways can go through
stays, and then the entry becomes something else again. -/
theorem Spares.enters_of_includes {between middle : FileSystem}
    (spares : files.Spares directory name) (sound : files.Sound)
    (enters : files.Enters directory left location)
    (first : ChangedIn location [name] files between) (includes : middle.Includes between)
    (working : middle.working = between.working)
    (second : ChangedIn location [name] middle after) : after.Enters directory left location := by
  have includesAll : after.Includes (files.erase location name) := by
    intro place passable
    have apart := not_below_of_erased sound enters.has passable.exists_node
    have seen := first.includes_erase sound enters.has place passable
    rw [second.sight place (apart_singleton.2 apart), includes place (passable_congr seen passable),
      seen]
  exact (spares left location enters).mono includesAll
    (second.working.trans (working.trans first.working))

/-- The way to the entry at a path does not lead through it. -/
def SparesEntry (files : FileSystem) (path : Bytes) : Prop :=
  ∀ left location name, files.Reaches path left location name →
    (files.erase location name).Reaches path left location name

theorem Spares.sparesEntry (spares : files.Spares directory name) (notEmpty : directory ≠ [])
    (proper : IsProper name) : files.SparesEntry (directory ++ slashByte :: name) := by
  intro left location other reaches
  have names : pathNames (directory ++ slashByte :: name) = pathNames directory ++ [name] := by
    rw [pathNames_append, proper.pathNames]
  have same := reaches.last
  rw [names, List.getLast?_concat] at same
  obtain rfl := Option.some.inj same
  have leads := reaches.leads
  rw [names, List.dropLast_concat, walkStart_append notEmpty] at leads
  exact (spares left location ⟨leads, reaches.has⟩).reaches notEmpty reaches.named reaches.fits

theorem Enters.spares (enters : files.Enters directory linkLimit location)
    (noParent : parentName ∉ pathNames directory) (name : Name) : files.Spares directory name := by
  intro otherLeft other otherEnters
  obtain ⟨rfl, rfl⟩ := enters.unique otherEnters
  have same (place : Location) (above : place <+: other) :
      (files.erase other name).sight? place = files.sight? place := by
    refine sight?_erase_apart enters.has fun within => ?_
    exact not_below_entry other name (within.trans above)
  exact ⟨enters.leads.straight_congr rfl noParent same,
    hasDirectory_congr (same other (List.prefix_refl _)) enters.has⟩

/-! ## Emptied directories -/

theorem node?_emptied_self (has : files.HasDirectory location) :
    ∃ entries, (files.emptied location).node? location = some (.directory entries) ∧
      entries.isEmpty = true := by
  obtain ⟨entries, found⟩ := has
  have changed : (files.emptied location).node? (location ++ []) =
      (Directory.empty entries.permissions).find? [] := node?_changeDirectory_below found []
  rw [List.append_nil] at changed
  exact ⟨_, changed, rfl⟩

theorem includes_emptied (has : files.HasDirectory location) :
    files.Includes (files.emptied location) := by
  intro place passable
  refine (sight?_emptied_apart has ?_).symm
  rintro rest notHere rfl
  exact not_passable_of_missing (node?_emptied_below has notHere) passable

/-! ## Removal -/

section

variable {path : Bytes} (reaches : files.Reaches path left location name)
include reaches

theorem Reaches.outcome_removeTree :
    outcome (FileOperation.removeTree path) files =
      match files.node? (location ++ [name]) with
      | none => (.error .notFound, files)
      | some (.link _) => (.ok (), files.erase location name)
      | some (.directory _) =>
          outcome (FileOperation.change fun files => files.removeDirectory path)
            (files.emptied (location ++ [name]))
      | some _ => (.error .notDirectory, files) := by
  rw [FileOperation.removeTree, outcome_bind, FileOperation.outcome_look]
  cases found : files.node? (location ++ [name]) with
  | none =>
      rw [FileSystem.locate, if_neg (by decide), reaches.seek_vacant .entry found]
      rfl
  | some node =>
      rw [reaches.locate node found]
      cases node with
      | link target =>
          simp only
          rw [FileOperation.outcome_change, reaches.unlink, found]
      | directory entries =>
          simp only
          rw [outcome_bind, outcome_modify]
          rfl
      | file | device => rfl

/-- Removing the tree at a path. If the path still reaches the entry, the tree is gone, or it was
none and stays what it was. -/
theorem Reaches.removeTree (sound : files.Sound) {result : Except FileError Unit}
    (removed : outcome (FileOperation.removeTree path) files = (result, after)) :
    ChangedIn location [name] files after ∧
      ∀ other found otherName, after.Reaches path other found otherName →
        after.node? (location ++ [name]) = none ∧ (result = .ok () ∨ result = .error .notFound) ∨
          result = .error .notDirectory ∧ after = files ∧
            ¬files.HasDirectory (location ++ [name]) := by
  rw [reaches.outcome_removeTree] at removed
  split at removed
  next none =>
    cases removed
    exact ⟨.refl .., fun _ _ _ _ => .inl ⟨none, .inr rfl⟩⟩
  next =>
    cases removed
    have gone := sound.node?_erase_below reaches.has name []
    exact ⟨.erase sound reaches.has name, fun _ _ _ _ => .inl ⟨gone, .inl rfl⟩⟩
  next entries found =>
    have has : files.HasDirectory (location ++ [name]) := ⟨entries, found⟩
    have changed := ChangedIn.emptied has
    rw [FileOperation.outcome_change] at removed
    split at removed
    next rest erased =>
      obtain ⟨rfl, rfl⟩ := Prod.mk.inj removed
      have reached : ∃ other found, (files.emptied (location ++ [name])).Reaches path other found
          name := by
        cases slotted : (files.emptied (location ++ [name])).slot path with
        | error error => simp [FileSystem.removeDirectory, slotted, bind, Except.bind] at erased
        | ok slot =>
            obtain ⟨other, bareReaches⟩ :=
              reaches_of_slot reaches.named reaches.last reaches.noSlash slotted
            exact ⟨other, _, bareReaches⟩
      obtain ⟨other, place, bareReaches⟩ := reached
      obtain ⟨rfl, rfl, -⟩ := (bareReaches.mono (includes_emptied has) rfl).unique reaches
      obtain ⟨empty, atEntry, isEmpty⟩ := node?_emptied_self has
      rw [bareReaches.removeDirectory, atEntry] at erased
      simp only [isEmpty, if_true, Except.ok.injEq] at erased
      subst erased
      have bareSound := changed.sound sound
      have gone := bareSound.node?_erase_below bareReaches.has name []
      exact ⟨changed.trans (.erase bareSound bareReaches.has name),
        fun _ _ _ _ => .inl ⟨gone, .inl rfl⟩⟩
    next error failed =>
      obtain ⟨rfl, rfl⟩ := Prod.mk.inj removed
      refine ⟨changed, fun other place otherName bareReaches => ?_⟩
      obtain ⟨rfl, rfl, rfl⟩ := (bareReaches.mono (includes_emptied has) rfl).unique reaches
      obtain ⟨empty, atEntry, isEmpty⟩ := node?_emptied_self has
      rw [bareReaches.removeDirectory, atEntry] at failed
      simp [isEmpty] at failed
  next node _ noDirectory found =>
    cases removed
    refine ⟨.refl .., fun _ _ _ _ => .inr ⟨rfl, rfl, ?_⟩⟩
    rintro ⟨entries, isDirectory⟩
    exact noDirectory entries (Option.some.inj (found.symm.trans isDirectory))

/-- Removing the tree at a path, if it is there, when the path reaches the entry whatever becomes of
it: the tree is gone, or it was none and nothing is changed. -/
theorem Reaches.removeTree_kept (sound : files.Sound)
    (stays : ∀ other, ChangedIn location [name] files other →
      other.Reaches path left location name)
    {result : Except FileError Unit}
    (removed : outcome (Job.ifThere (FileOperation.removeTree path)) files = (result, after)) :
    result = .ok () ∧ ChangedIn location [name] files after ∧
        after.Reaches path left location name ∧ after.node? (location ++ [name]) = none ∨
      (∃ error, result = .error error) ∧ after = files := by
  rw [Job.outcome_ifThere] at removed
  generalize tried : outcome (FileOperation.removeTree path) files = attempt at removed
  obtain ⟨attempted, behind⟩ := attempt
  obtain ⟨changed, cases⟩ := reaches.removeTree sound tried
  have reachesBehind := stays behind changed
  rcases cases left location name reachesBehind with ⟨gone, rfl | rfl⟩ | ⟨rfl, rfl, -⟩
  · obtain ⟨rfl, rfl⟩ := Prod.mk.inj removed
    exact .inl ⟨rfl, changed, reachesBehind, gone⟩
  · obtain ⟨rfl, rfl⟩ := Prod.mk.inj removed
    exact .inl ⟨rfl, changed, reachesBehind, gone⟩
  · obtain ⟨rfl, rfl⟩ := Prod.mk.inj removed
    exact .inr ⟨⟨_, rfl⟩, rfl⟩

end

section

variable (enters : files.Enters directory left location) (ends : EndsInName directory)
  (named : IsEntryName name) (fits : Fits (directory ++ slashByte :: name))
include enters ends named fits

/-- Removing the tree under a name. If its directory can still be entered, the tree is gone, or it
was none and stays what it was. -/
theorem removeTree_entry (sound : files.Sound) {result : Except FileError Unit}
    (removed : outcome (FileOperation.removeTree (directory ++ slashByte :: name)) files =
      (result, after)) :
    ChangedIn location [name] files after ∧
      ∀ other found, after.Enters directory other found →
        after.node? (location ++ [name]) = none ∧ (result = .ok () ∨ result = .error .notFound) ∨
          result = .error .notDirectory ∧ after = files ∧
            ¬files.HasDirectory (location ++ [name]) := by
  obtain ⟨changed, cases⟩ := (enters.reaches ends.ne_nil named fits).removeTree sound removed
  exact ⟨changed, fun other found entersAfter =>
    cases other found name (entersAfter.reaches ends.ne_nil named fits)⟩

/-- Where a tree was removed, if it was there, and the directory can still be entered, the tree is
gone. -/
theorem removeTree_entered (sound : files.Sound)
    (removed : outcome (Job.ifThere (FileOperation.removeTree (directory ++ slashByte :: name)))
      files = (.ok (), after))
    {otherLeft : Nat} {other : Location} (entersAfter : after.Enters directory otherLeft other) :
    ChangedIn location [name] files after ∧ after.node? (location ++ [name]) = none ∧
      after.Enters directory left location := by
  rw [Job.outcome_ifThere] at removed
  generalize tried : outcome (FileOperation.removeTree (directory ++ slashByte :: name)) files =
    attempt at removed
  obtain ⟨attempted, behind⟩ := attempt
  obtain ⟨changed, cases⟩ := removeTree_entry enters ends named fits sound tried
  have same : behind = after := by
    cases attempted with
    | ok => exact (Prod.mk.inj removed).2
    | error error => cases error <;> exact (Prod.mk.inj removed).2
  subst same
  rcases cases otherLeft other entersAfter with ⟨gone, -⟩ | ⟨rfl, rfl, -⟩
  · have closed : ∀ entry ∈ [name], ∀ rest, files.Passable (location ++ entry :: rest) →
        ¬behind.Passable (location ++ entry :: rest) := by
      intro entry member rest _
      exact List.mem_singleton.1 member ▸ not_passable_of_vacant gone rest
    obtain ⟨rfl, rfl⟩ := changed.unique closed enters entersAfter
    exact ⟨changed, gone, entersAfter⟩
  · cases (Prod.mk.inj removed).1

/-- Removing the tree under a name, if it is there, from a directory whose path does not run through
it: the tree is gone, or it was none and nothing is changed. -/
theorem removeTree_spared (sound : files.Sound) (spares : files.Spares directory name)
    {result : Except FileError Unit}
    (removed : outcome (Job.ifThere (FileOperation.removeTree (directory ++ slashByte :: name)))
      files = (result, after)) :
    result = .ok () ∧ ChangedIn location [name] files after ∧
        after.Enters directory left location ∧ after.node? (location ++ [name]) = none ∨
      (∃ error, result = .error error) ∧ after = files := by
  have stays (other : FileSystem) (changed : ChangedIn location [name] files other) :=
    (spares.enters changed sound enters).reaches ends.ne_nil named fits
  rcases (enters.reaches ends.ne_nil named fits).removeTree_kept sound stays removed with
    ⟨succeeded, changed, -, gone⟩ | failed
  · exact .inl ⟨succeeded, changed, spares.enters changed sound enters, gone⟩
  · exact .inr failed

end

theorem removeTree_of_not_enters (ends : EndsInName directory) (proper : IsProper name)
    (closed : ¬∃ left location, files.Enters directory left location) :
    ∃ error, outcome (FileOperation.removeTree (directory ++ slashByte :: name)) files =
      (.error error, files) := by
  rw [FileOperation.removeTree, outcome_bind, FileOperation.outcome_look]
  cases found : files.locate false (directory ++ slashByte :: name) with
  | error error => exact ⟨error, rfl⟩
  | ok place =>
      rw [locate, if_neg (by decide)] at found
      obtain ⟨left, location, enters, -⟩ :=
        enters_of_seek ends (by rw [proper.walkNames]; simp) found
      exact absurd ⟨left, location, enters⟩ closed

end SchemaBuild.FileSystem
