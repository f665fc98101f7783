import SchemaBuild.Proofs.FileSystem.Removal

/-!
# Writing to one file

Writing through a path changes whatever it leads to: a link is followed, and a file may have more
names. Where an entry is neither a link nor a device, nor a file with another name, writing to it
changes nothing elsewhere.
-/

namespace SchemaBuild.FileSystem

variable {files before after : FileSystem} {directory : Bytes} {left : Nat}
  {location place : Location} {name : Name} {id : FileId}

/-! ## Files with one name -/

structure IsOnlyName (files : FileSystem) (place : Location) (id : FileId) : Prop where
  here : files.node? place = some (.file id)
  only : ∀ other, files.node? other = some (.file id) → other = place

/-- What is at a location, if anything, is a directory or a file without another name. -/
def Unshared (files : FileSystem) (place : Location) : Prop :=
  ∀ node, files.node? place = some node →
    node.isDirectory = true ∨ ∃ id, node = .file id ∧ files.IsOnlyName place id

/-- What is at the end of a path can be written to without a change elsewhere. -/
def WritesAlone (files : FileSystem) (path : Bytes) : Prop :=
  ∀ place node, files.locate false path = .ok (.node place node) → files.Unshared place

def isFound : Except FileError Place → Bool
  | .ok (.node _ _) => true
  | _ => false

theorem writesAlone_of_missing {path : Bytes}
    (missing : isFound (files.locate false path) = false) : files.WritesAlone path := by
  intro place node located
  rw [located] at missing
  cases missing

theorem WritesAlone.unshared (alone : files.WritesAlone (directory ++ slashByte :: name))
    (enters : files.Enters directory left location) (ends : EndsInName directory)
    (named : IsEntryName name) (fits : Fits (directory ++ slashByte :: name)) :
    files.Unshared (location ++ [name]) := by
  intro node found
  exact alone _ node (locate_entry enters ends named fits node found) node found

theorem IsOnlyName.unshared (only : files.IsOnlyName place id) : files.Unshared place := by
  intro node found
  obtain rfl := Option.some.inj (only.here.symm.trans found)
  exact .inr ⟨id, rfl, only⟩

namespace ChangedIn

theorem changeFile (only : files.IsOnlyName (location ++ [name]) id)
    (change : StoredFile → StoredFile) :
    ChangedIn location [name] files (files.changeFile id change) := by
  refine ⟨rfl, rfl, fun sound => sound.changeFile id change, fun place apart => ?_⟩
  refine sight?_changeFile_of_ne change fun listed => ?_
  exact apart_singleton.1 apart (only.only place listed ▸ List.prefix_refl _)

theorem putFile (sound : files.Sound) (has : files.HasDirectory location)
    (proper : IsProper name) (file : StoredFile) :
    ChangedIn location [name] files (files.putFile location name file) :=
  ⟨rfl, rfl, fun sound => sound.putFile proper file,
    fun _ apart => sound.sight?_putFile_apart has file (apart_singleton.1 apart)⟩

theorem includes (changed : ChangedIn location [name] files after)
    (closed : ∀ rest, ¬files.Passable (location ++ name :: rest)) : after.Includes files := by
  intro place passable
  refine changed.sight place (apart_singleton.2 ?_)
  rintro ⟨rest, rfl⟩
  rw [List.append_assoc, List.singleton_append] at passable
  exact closed rest passable

end ChangedIn

theorem includes_changeFile (files : FileSystem) (id : FileId) (change : StoredFile → StoredFile) :
    (files.changeFile id change).Includes files := by
  intro place passable
  refine sight?_changeFile_of_ne change fun listed => ?_
  rcases passable with ⟨entries, found⟩ | ⟨text, found⟩ <;> rw [listed] at found <;> cases found

theorem Includes.changeFile (includes : files.Includes before) (id : FileId)
    (change : StoredFile → StoredFile) : (files.changeFile id change).Includes before :=
  includes.trans (includes_changeFile files id change)

theorem Enters.changeFile (enters : files.Enters directory left location) (id : FileId)
    (change : StoredFile → StoredFile) :
    (files.changeFile id change).Enters directory left location :=
  enters.mono (includes_changeFile files id change) rfl

theorem isOnlyName_putFile (sound : files.Sound) (has : files.HasDirectory location)
    (file : StoredFile) :
    (files.putFile location name file).IsOnlyName (location ++ [name]) files.stored.size := by
  refine ⟨node?_put_below has [], fun place listed => ?_⟩
  by_cases below : location ++ [name] <+: place
  · obtain ⟨rest, rfl⟩ := below
    rw [List.append_assoc, List.singleton_append, node?_putFile, node?_put_below has] at listed
    cases rest with
    | nil => rw [List.append_nil]
    | cons head tail => cases listed
  · have seen := sight?_of_node? listed
    rw [sound.sight?_putFile_apart has file below] at seen
    obtain ⟨old, -⟩ := sight?_eq_file.1 seen
    exact absurd (sound.file_lt old) (Nat.lt_irrefl _)

theorem IsOnlyName.changeFile (only : files.IsOnlyName place id)
    (change : StoredFile → StoredFile) : (files.changeFile id change).IsOnlyName place id :=
  ⟨only.here, only.only⟩

theorem IsOnlyName.storedAt_setContent (only : files.IsOnlyName place id) (sound : files.Sound)
    (content : Content) : ((files.setContent id content).storedAt id).content = content := by
  rw [setContent, storedAt_changeFile_self (sound.file_lt only.here)]

theorem Unshared.of_sight (unshared : files.Unshared place)
    (same : after.sight? place = files.sight? place)
    (only : ∀ id, files.IsOnlyName place id → ∀ other, after.node? other = some (.file id) →
      other = place) : after.Unshared place := by
  intro node found
  have seen := same.symm.trans (sight?_of_node? found)
  cases node with
  | directory entries => exact .inl rfl
  | link target =>
      rcases unshared _ (sight?_eq_link.1 seen) with isDirectory | ⟨id, same, -⟩
      · cases isDirectory
      · cases same
  | device device =>
      obtain ⟨node, here, same⟩ := Option.map_eq_some_iff.1 seen
      cases node with
      | device other =>
          rcases unshared _ here with isDirectory | ⟨id, same, -⟩
          · cases isDirectory
          · cases same
      | file | link | directory => cases same
  | file id =>
      obtain ⟨here, -⟩ := sight?_eq_file.1 seen
      rcases unshared _ here with isDirectory | ⟨other, same, alone⟩
      · cases isDirectory
      obtain rfl := Node.file.inj same
      exact .inr ⟨id, rfl, found, only id alone⟩

theorem Unshared.changedIn {names : List Name} (unshared : files.Unshared place)
    (changed : ChangedIn location names files after) (apart : Apart location names place)
    (others : ∀ id, files.IsOnlyName place id → ∀ name ∈ names, ∀ rest,
      after.node? (location ++ name :: rest) ≠ some (.file id)) : after.Unshared place := by
  refine unshared.of_sight (changed.sight place apart) fun id only elsewhere listed => ?_
  by_cases within : Apart location names elsewhere
  · have seen := (changed.sight elsewhere within).symm.trans (sight?_of_node? listed)
    exact only.only elsewhere (sight?_eq_file.1 seen).1
  · obtain ⟨name, member, rest, rfl⟩ := exists_of_not_apart within
    exact absurd listed (others id only name member rest)

/-! ## Moving an entry -/

section

variable {other : Name} {node : Node} (has : files.HasDirectory location)
include has

theorem node?_moved (found : files.node? (location ++ [name]) = some node) (rest : Location) :
    ((files.erase location name).put location other node).node? (location ++ other :: rest) =
      files.node? (location ++ name :: rest) := by
  have hasThen : (files.erase location name).HasDirectory location :=
    hasDirectory_congr (sight?_erase_apart has (not_below_entry location name)) has
  rw [node?_put_below hasThen, ← List.singleton_append, ← List.append_assoc, node?_append, found,
    Option.bind_some]

theorem sight?_moved (found : files.node? (location ++ [name]) = some node) (rest : Location) :
    ((files.erase location name).put location other node).sight? (location ++ other :: rest) =
      files.sight? (location ++ name :: rest) := by
  rw [sight?, sight?, node?_moved has found]
  exact congrArg (Option.map · _) (sightOf_changeDirectory.trans sightOf_changeDirectory)

theorem node?_moved_away (different : name ≠ other) (sound : files.Sound) (rest : Location) :
    ((files.erase location name).put location other node).node? (location ++ name :: rest) =
      none := by
  have hasThen : (files.erase location name).HasDirectory location :=
    hasDirectory_congr (sight?_erase_apart has (not_below_entry location name)) has
  rw [node?_put_beside hasThen different, sound.node?_erase_below has]

theorem ChangedIn.moved (found : files.node? (location ++ [name]) = some node)
    (sound : files.Sound) (otherProper : IsProper other) :
    ChangedIn location [name, other] files
      ((files.erase location name).put location other node) := by
  have erased := ChangedIn.erase sound has name
  have put : ChangedIn location [other] (files.erase location name) _ :=
    .put (erased.hasDirectory has) otherProper fun _ => sound.node? found
  exact (erased.mono (by simp)).trans (put.mono (by simp))

theorem IsOnlyName.moved (different : name ≠ other)
    (found : files.node? (location ++ [name]) = some node) (sound : files.Sound)
    (otherProper : IsProper other) {rest : Location}
    (only : files.IsOnlyName (location ++ name :: rest) id) :
    ((files.erase location name).put location other node).IsOnlyName
      (location ++ other :: rest) id := by
  refine ⟨(node?_moved has found rest).trans only.here, fun place listed => ?_⟩
  by_cases atOther : location ++ [other] <+: place
  · obtain ⟨below, rfl⟩ := atOther
    rw [List.append_assoc, List.singleton_append, node?_moved has found] at listed
    have same := only.only _ listed
    rw [List.append_cancel_left_eq, List.cons.injEq] at same
    rw [same.2, List.append_assoc, List.singleton_append]
  by_cases atName : location ++ [name] <+: place
  · obtain ⟨below, rfl⟩ := atName
    rw [List.append_assoc, List.singleton_append,
      node?_moved_away has different sound] at listed
    cases listed
  · have apart : Apart location [name, other] place := by
      intro entry member
      rcases List.mem_cons.1 member with rfl | member
      · exact atName
      · exact List.mem_singleton.1 member ▸ atOther
    have seen := (ChangedIn.moved has found sound otherProper).sight place apart
    rw [sight?_of_node? listed] at seen
    obtain ⟨old, -⟩ := sight?_eq_file.1 seen.symm
    exact absurd (only.only place old ▸ below_entry location name rest) atName

end

/-! ## Opening and replacing -/

section

variable (enters : files.Enters directory left location) (ends : EndsInName directory)
  (named : IsEntryName name) (fits : Fits (directory ++ slashByte :: name))
  (sound : files.Sound) (unshared : files.Unshared (location ++ [name]))
include enters ends named fits sound unshared

/-- What can be opened to write to it is a file with this name only. It is new or was there. -/
theorem openToWrite_unshared {permissions : Nat} {opened : Opened}
    (opens : files.openToWrite (directory ++ slashByte :: name) permissions =
      .ok (opened, after)) :
    ∃ id, opened = .file id ∧ after.IsOnlyName (location ++ [name]) id ∧
      ChangedIn location [name] files after ∧ after.Includes files ∧
        (∀ other rest, other ≠ name →
          after.node? (location ++ other :: rest) = files.node? (location ++ other :: rest)) ∧
        ∀ node, files.node? (location ++ [name]) = some node → ∃ old, node = .file old := by
  cases found : files.node? (location ++ [name]) with
  | none =>
      rw [openToWrite_vacant enters ends named fits permissions found] at opens
      split at opens
      next takes =>
        obtain ⟨rfl, rfl⟩ := Prod.mk.inj (Except.ok.inj opens)
        have changed := ChangedIn.putFile sound enters.has named.toIsProper
          { permissions := permissions, time := presentTime }
        exact ⟨_, rfl, isOnlyName_putFile sound enters.has _, changed,
          changed.includes (not_passable_of_vacant found),
          fun other rest different => node?_put_beside enters.has different rest,
          fun node present => by cases present⟩
      next => cases opens
  | some node =>
      rcases unshared node found with isDirectory | ⟨id, rfl, only⟩
      · cases node with
        | directory entries =>
            rw [openToWrite_directory enters ends named fits permissions found] at opens
            cases opens
        | file | link | device => cases isDirectory
      · rw [openToWrite_file enters ends named fits permissions found] at opens
        obtain ⟨rfl, rfl⟩ := Prod.mk.inj (Except.ok.inj opens)
        exact ⟨id, rfl, only, .refl .., .refl files, fun _ _ _ => rfl,
          fun node present => ⟨id, (Option.some.inj present).symm⟩⟩

theorem replace_unshared {content : Content}
    (replaced : files.replace (directory ++ slashByte :: name) content = .ok after) :
    ChangedIn location [name] files after ∧ after.Enters directory left location ∧
      (∀ node, files.node? (location ++ [name]) = some node → ∃ old, node = .file old) ∧
        ∃ id, after.IsOnlyName (location ++ [name]) id ∧
          (after.storedAt id).content = content := by
  rw [replace] at replaced
  cases opens : files.openToWrite (directory ++ slashByte :: name) usualPermissions with
  | error error => simp [opens, bind, Except.bind] at replaced
  | ok pair =>
      obtain ⟨opened, middle⟩ := pair
      obtain ⟨id, rfl, only, changed, includes, -, onlyFile⟩ :=
        openToWrite_unshared enters ends named fits sound unshared opens
      have entersThen := enters.mono includes changed.working
      simp only [opens, bind, Except.bind, Except.ok.injEq] at replaced
      subst replaced
      exact ⟨changed.trans (.changeFile only _), entersThen.changeFile _ _, onlyFile, id,
        only.changeFile _,
        only.storedAt_setContent (changed.sound sound) content⟩

theorem unlink_unshared {result : Except FileError Unit}
    (removed : outcome (Job.ifThere (FileOperation.change fun files =>
      files.unlink (directory ++ slashByte :: name))) files = (result, after)) :
    ChangedIn location [name] files after ∧ after.Includes files ∧
      (files.HasDirectory (location ++ [name]) ∨ after.node? (location ++ [name]) = none) := by
  rw [Job.outcome_ifThere, FileOperation.outcome_change,
    (enters.reaches ends.ne_nil named fits).unlink] at removed
  cases found : files.node? (location ++ [name]) with
  | none =>
      rw [found] at removed
      obtain ⟨-, rfl⟩ := Prod.mk.inj removed
      exact ⟨.refl .., .refl files, .inr found⟩
  | some node =>
      rw [found] at removed
      rcases unshared node found with isDirectory | ⟨id, rfl, only⟩
      · cases node with
        | directory entries =>
            obtain ⟨-, rfl⟩ := Prod.mk.inj removed
            exact ⟨.refl .., .refl files, .inl ⟨entries, found⟩⟩
        | file | link | device => cases isDirectory
      · obtain ⟨-, rfl⟩ := Prod.mk.inj removed
        have changed := ChangedIn.erase sound enters.has name
        exact ⟨changed, changed.includes (not_passable_of_file found),
          .inr (sound.node?_erase_below enters.has name [])⟩

omit unshared in
/-- A file whose only name becomes another one is moved there, whatever had this name. -/
theorem rename_onlyName {other : Name} (otherNamed : IsEntryName other)
    (otherFits : Fits (directory ++ slashByte :: other)) (different : name ≠ other)
    (only : files.IsOnlyName (location ++ [name]) id)
    (renamed : files.rename (directory ++ slashByte :: name) (directory ++ slashByte :: other) =
      .ok after) :
    ChangedIn location [name, other] files after ∧ after.node? (location ++ [name]) = none ∧
      after.IsOnlyName (location ++ [other]) id ∧ after.storedAt id = files.storedAt id := by
  obtain ⟨node, found, rfl | ⟨same, rfl, listed, -⟩⟩ :=
    rename_ok enters ends named otherNamed fits otherFits different renamed
  · exact ⟨.moved enters.has found sound otherNamed.toIsProper,
      node?_moved_away enters.has different sound [],
      only.moved enters.has different found sound otherNamed.toIsProper, rfl⟩
  · obtain rfl := Node.file.inj (Option.some.inj (found.symm.trans only.here))
    have place := only.only _ listed
    rw [List.append_cancel_left_eq, List.cons.injEq] at place
    exact absurd place.1.symm different

end

end SchemaBuild.FileSystem
