import SchemaBuild.Proofs.FileSystem.Growth
import SchemaBuild.Proofs.FileSystem.Twins

/-!
# Operations on twins

Each operation on an entry that a program has to itself comes to the same in twins.
-/

namespace SchemaBuild.FileSystem

variable {site : Site} {own : List Name} {name other : Name}
  {first second firstAfter secondAfter : FileSystem}

theorem Agree.of_changed {ε α : Type} (result : Except ε α)
    (inStep : InStep site own first second firstAfter secondAfter) :
    Agree site own first second (result, firstAfter) (result, secondAfter) :=
  ⟨rfl, inStep⟩

namespace Twins

section

variable (twins : Twins site own first second) (entry : site.HasEntry name) (member : name ∈ own)
include twins entry

/-! ## Walks -/

include member in
theorem sameEnd {rest : Bytes} {below : List Name} (names : walkNames rest = name :: below)
    (proper : ∀ name ∈ below, IsProper name) :
    SameEnd (site.location ++ [name]) first second
      (first.locate true (site.directory ++ slashByte :: rest))
      (second.locate true (site.directory ++ slashByte :: rest)) := by
  rw [locate, locate, if_pos rfl]
  by_cases fits : Fits (site.directory ++ slashByte :: rest)
  · have more : walkNames rest ≠ [] := by simp [names]
    have goesOn : (walkNames rest).getLast? ≠ some finalSlash := by
      intro last
      rw [names] at last
      rcases List.mem_cons.1 (List.mem_of_getLast? last) with same | member
      · exact entry.named.notEmpty same.symm
      · exact (proper _ member).notEmpty rfl
    have enters := twins.tidy.enters
    have otherEnters := twins.otherTidy.enters
    rw [enters.seek entry.ends.ne_nil fits more goesOn,
      otherEnters.seek entry.ends.ne_nil fits more goesOn, names]
    have atName := twins.samePlace member
    have present : (second.node? site.location).isSome = (first.node? site.location).isSome := by
      obtain ⟨_, here⟩ := enters.has
      obtain ⟨_, there⟩ := otherEnters.has
      rw [here, there]
      rfl
    refine sameEnd_of_step entry.named.step present (List.prefix_refl _) (atName []) ?_
    refine sameEnd_of_walk (List.prefix_refl _) (fun isIn => (proper _ isIn).notParent rfl)
      fun others => ?_
    rw [List.append_assoc]
    exact atName others
  · obtain ⟨error, -, refused⟩ := refused_of_not_fits fits
    rw [(refused first).1, (refused second).1]
    exact .error error

/-! ## Removal -/

section

include member

theorem removeTree :
    Agree site own first second
      (outcome (Job.ifThere (FileOperation.removeTree (site.path name))) first)
      (outcome (Job.ifThere (FileOperation.removeTree (site.path name))) second) := by
  have inFirst := (twins.tidy.reaches entry).outcome_removeTree
  have inSecond := (twins.otherTidy.reaches entry).outcome_removeTree
  cases twins.samePlace member [] with
  | none missing alsoMissing =>
      rw [missing] at inFirst
      rw [alsoMissing] at inSecond
      rw [Job.outcome_ifThere, Job.outcome_ifThere, inFirst, inSecond]
      exact twins.unchanged _
  | file id second here there =>
      rw [here.here] at inFirst
      rw [there.here] at inSecond
      rw [Job.outcome_ifThere, Job.outcome_ifThere, inFirst, inSecond]
      exact twins.unchanged _
  | directory entries others here there =>
      have matters := twins.owned member
      obtain ⟨_, removes, changed, gone⟩ := twins.tidy.removeTree_directory entry matters here
      obtain ⟨_, alsoRemoves, alsoChanged, alsoGone⟩ :=
        twins.otherTidy.removeTree_directory entry matters there
      rw [removes, alsoRemoves]
      exact .of_changed _ (twins.changed member changed alsoChanged (.of_vacant gone alsoGone))

theorem unlink :
    Agree site own first second
      (outcome (Job.ifThere (FileOperation.change fun files => files.unlink (site.path name)))
        first)
      (outcome (Job.ifThere (FileOperation.change fun files => files.unlink (site.path name)))
        second) := by
  have reaches := twins.tidy.reaches entry
  have alsoReaches := twins.otherTidy.reaches entry
  rw [Job.outcome_ifThere, Job.outcome_ifThere, FileOperation.outcome_change,
    FileOperation.outcome_change, reaches.unlink, alsoReaches.unlink]
  cases twins.samePlace member [] with
  | none missing alsoMissing =>
      rw [missing, alsoMissing]
      exact twins.unchanged _
  | file id second here there =>
      rw [here.here, there.here]
      refine .of_changed _ (twins.changed member (.erase twins.tidy.sound reaches.has name)
        (.erase twins.otherTidy.sound alsoReaches.has name) (.of_vacant ?_ ?_))
      · exact twins.tidy.sound.node?_erase_below reaches.has name []
      · exact twins.otherTidy.sound.node?_erase_below alsoReaches.has name []
  | directory entries others here there =>
      rw [here, there]
      exact twins.unchanged _

end

/-! ## New directories -/

include member

theorem putDirectory (permissions : Nat) :
    InStep site own first second
      (first.put site.location name (.directory (.empty permissions)))
      (second.put site.location name (.directory (.empty permissions))) := by
  have proper := entry.named.toIsProper
  have soundNode (files : FileSystem) (_ : files.Sound) :
      (Node.directory (.empty permissions)).Sound files.stored.size := by
    rw [Node.Sound, Directory.Sound]
    trivial
  exact twins.changed member (.put twins.tidy.enters.has proper (soundNode first))
    (.put twins.otherTidy.enters.has proper (soundNode second))
    (.of_empty (node?_put_below twins.tidy.enters.has [])
      (node?_put_below twins.otherTidy.enters.has []))

theorem makeDirectories {path directory : Path} (isDirectory : directory.bytes = site.directory)
    (noSlash : endsInSlash site.directory = false) (bytes : path.bytes = site.path name)
    (isParent : path.parent? = some directory)
    (vacant : first.node? (site.location ++ [name]) = none) :
    Agree site own first second (outcome (FileOperation.makeDirectories path) first)
      (outcome (FileOperation.makeDirectories path) second) := by
  have alsoVacant := node?_none_of_view? (twins.samePlace member []).view vacant
  have enters := isDirectory ▸ twins.tidy.enters
  have alsoEnters := isDirectory ▸ twins.otherTidy.enters
  have ends := isDirectory ▸ entry.ends
  rw [← isDirectory] at noSlash
  have isBytes : path.bytes = directory.bytes ++ slashByte :: name := isDirectory ▸ bytes
  have fits : Fits path.bytes := bytes ▸ entry.fits
  rw [enters.makeDirectories_vacant ends noSlash entry.named isBytes isParent fits vacant,
    alsoEnters.makeDirectories_vacant ends noSlash entry.named isBytes isParent fits alsoVacant,
    twins.alike.takesEntries, inheritedPermissions_of_view? twins.alike.here]
  split
  · exact .of_changed _ (twins.putDirectory entry member _)
  · exact twins.unchanged _

/-! ## Files -/

omit entry in
theorem setContent {id otherId : FileId} (only : first.IsOnlyName (site.location ++ [name]) id)
    (alsoOnly : second.IsOnlyName (site.location ++ [name]) otherId) (content : Content) :
    InStep site own first second (first.setContent id content)
      (second.setContent otherId content) := by
  have stored : second.storedAt otherId = first.storedAt id := by
    obtain ⟨_, there, stored⟩ := file_of_view? (twins.samePlace member []).view only.here
    obtain rfl := Node.file.inj (Option.some.inj (alsoOnly.here.symm.trans there))
    exact stored
  refine twins.changed member (.changeFile only _) (.changeFile alsoOnly _)
    (.of_file (only.changeFile _) (alsoOnly.changeFile _) ?_)
  rw [FileSystem.setContent, FileSystem.setContent,
    storedAt_changeFile_self (twins.tidy.sound.file_lt only.here),
    storedAt_changeFile_self (twins.otherTidy.sound.file_lt alsoOnly.here), stored]

/-- Twins refuse to open an entry for the same reason, or a file with one name is opened, which is
new or was there. -/
theorem openToWrite (permissions : Nat) :
    (∃ error, first.openToWrite (site.path name) permissions = .error error ∧
      second.openToWrite (site.path name) permissions = .error error) ∨
    ∃ id otherId firstAfter secondAfter,
      first.openToWrite (site.path name) permissions = .ok (.file id, firstAfter) ∧
      second.openToWrite (site.path name) permissions = .ok (.file otherId, secondAfter) ∧
      firstAfter.IsOnlyName (site.location ++ [name]) id ∧
      secondAfter.IsOnlyName (site.location ++ [name]) otherId ∧
      InStep site own first second firstAfter secondAfter := by
  have enters := twins.tidy.enters
  have alsoEnters := twins.otherTidy.enters
  obtain ⟨ends, named, fits⟩ := entry
  rw [Site.path]
  cases twins.samePlace member [] with
  | none missing alsoMissing =>
      rw [openToWrite_vacant enters ends named fits permissions missing,
        openToWrite_vacant alsoEnters ends named fits permissions alsoMissing,
        twins.alike.takesEntries]
      split
      · have proper := named.toIsProper
        let file : StoredFile := { permissions := permissions, time := presentTime }
        have only : (first.putFile site.location name file).IsOnlyName _ first.stored.size :=
          isOnlyName_putFile twins.tidy.sound enters.has file
        have alsoOnly : (second.putFile site.location name file).IsOnlyName _ second.stored.size :=
          isOnlyName_putFile twins.otherTidy.sound alsoEnters.has file
        refine .inr ⟨_, _, _, _, rfl, rfl, only, alsoOnly, twins.changed member
          (.putFile twins.tidy.sound enters.has proper _)
          (.putFile twins.otherTidy.sound alsoEnters.has proper _)
          (.of_file only alsoOnly ?_)⟩
        rw [storedAt_putFile_self, storedAt_putFile_self]
      · exact .inl ⟨_, rfl, rfl⟩
  | file id otherId here there =>
      rw [openToWrite_file enters ends named fits permissions here.here,
        openToWrite_file alsoEnters ends named fits permissions there.here]
      exact .inr ⟨id, otherId, first, second, rfl, rfl, here, there, twins.inStep⟩
  | directory entries others here there =>
      rw [openToWrite_directory enters ends named fits permissions here,
        openToWrite_directory alsoEnters ends named fits permissions there]
      exact .inl ⟨_, rfl, rfl⟩

theorem replace (content : Content) :
    Agree site own first second
      (outcome (FileOperation.change fun files => files.replace (site.path name) content) first)
      (outcome (FileOperation.change fun files => files.replace (site.path name) content)
        second) := by
  rw [FileOperation.outcome_change, FileOperation.outcome_change, FileSystem.replace,
    FileSystem.replace]
  rcases twins.openToWrite entry member usualPermissions with
    ⟨error, opens, alsoOpens⟩ | ⟨id, otherId, middle, otherMiddle, opens, alsoOpens, only,
      alsoOnly, inStep⟩
  · rw [opens, alsoOpens]
    exact twins.unchanged _
  · rw [opens, alsoOpens]
    exact .of_changed _ (inStep.trans (inStep.twins.setContent member only alsoOnly content))

end

/-! ## New names -/

section

variable (twins : Twins site own first second) (entry : site.HasEntry name)
  (otherEntry : site.HasEntry other) (member : name ∈ own) (otherMember : other ∈ own)
  (different : name ≠ other)
include twins entry otherEntry member otherMember different

theorem moved {node otherNode : Node}
    (here : first.node? (site.location ++ [name]) = some node)
    (there : second.node? (site.location ++ [name]) = some otherNode) :
    InStep site own first second
      ((first.erase site.location name).put site.location other node)
      ((second.erase site.location name).put site.location other otherNode) := by
  have has := twins.tidy.enters.has
  have alsoHas := twins.otherTidy.enters.has
  have sound := twins.tidy.sound
  have alsoSound := twins.otherTidy.sound
  have proper := otherEntry.named.toIsProper
  have isOwn : [name, other] ⊆ own :=
    List.cons_subset.2 ⟨member, List.cons_subset.2 ⟨otherMember, List.nil_subset _⟩⟩
  refine twins.changedAt isOwn (.moved has here sound proper)
    (.moved alsoHas there alsoSound proper) fun moved isMoved rest => ?_
  rcases List.mem_cons.1 isMoved with rfl | isOther
  · exact .none (node?_moved_away has different sound rest)
      (node?_moved_away alsoHas different alsoSound rest)
  · obtain rfl := List.mem_singleton.1 isOther
    cases twins.samePlace member rest with
    | none missing alsoMissing =>
        exact .none ((node?_moved has here rest).trans missing)
          ((node?_moved alsoHas there rest).trans alsoMissing)
    | file id otherId only alsoOnly stored =>
        exact .file id otherId (only.moved has different here sound proper)
          (alsoOnly.moved alsoHas different there alsoSound proper) stored
    | directory entries others found alsoFound permissions =>
        exact .directory entries others ((node?_moved has here rest).trans found)
          ((node?_moved alsoHas there rest).trans alsoFound) permissions

theorem rename {node otherNode : Node}
    (here : first.node? (site.location ++ [name]) = some node)
    (there : second.node? (site.location ++ [name]) = some otherNode)
    (noName : sameFile node (first.node? (site.location ++ [other])) = false)
    (alsoNoName : sameFile otherNode (second.node? (site.location ++ [other])) = false)
    (replaces : replaceable otherNode.isDirectory (second.node? (site.location ++ [other])) =
      replaceable node.isDirectory (first.node? (site.location ++ [other]))) :
    Agree site own first second
      (outcome (FileOperation.change fun files => files.rename (site.path name) (site.path other))
        first)
      (outcome (FileOperation.change fun files => files.rename (site.path name) (site.path other))
        second) := by
  obtain ⟨ends, named, fits⟩ := entry
  obtain ⟨-, otherNamed, otherFits⟩ := otherEntry
  have renames := FileSystem.rename_found twins.tidy.enters ends named otherNamed fits otherFits
    different here
  have alsoRenames := FileSystem.rename_found twins.otherTidy.enters ends named otherNamed fits
    otherFits different there
  rw [noName, if_neg Bool.false_ne_true] at renames
  rw [alsoNoName, if_neg Bool.false_ne_true, twins.alike.takesEntries, replaces] at alsoRenames
  rw [FileOperation.outcome_change, FileOperation.outcome_change, Site.path, Site.path, renames,
    alsoRenames]
  cases first.takesEntries site.location with
  | false => exact twins.unchanged _
  | true =>
      cases replaceable node.isDirectory (first.node? (site.location ++ [other])) with
      | error error => exact twins.unchanged _
      | ok =>
          exact .of_changed _ (twins.moved ⟨ends, named, fits⟩ ⟨ends, otherNamed, otherFits⟩ member
            otherMember different here there)

theorem rename_vacant (vacant : first.node? (site.location ++ [other]) = none) :
    Agree site own first second
      (outcome (FileOperation.change fun files => files.rename (site.path name) (site.path other))
        first)
      (outcome (FileOperation.change fun files => files.rename (site.path name) (site.path other))
        second) := by
  have alsoVacant := node?_none_of_view? (twins.samePlace otherMember []).view vacant
  have noName (node : Node) : sameFile node none = false := by cases node <;> rfl
  have replaces (isDirectory : Bool) : replaceable isDirectory none = .ok () := rfl
  have found {node otherNode : Node}
      (here : first.node? (site.location ++ [name]) = some node)
      (there : second.node? (site.location ++ [name]) = some otherNode) :=
    twins.rename entry otherEntry member otherMember different here there
      (by rw [vacant, noName]) (by rw [alsoVacant, noName])
      (by rw [vacant, alsoVacant, replaces, replaces])
  cases twins.samePlace member [] with
  | none missing alsoMissing =>
      obtain ⟨ends, named, fits⟩ := entry
      obtain ⟨-, otherNamed, otherFits⟩ := otherEntry
      rw [FileOperation.outcome_change, FileOperation.outcome_change, Site.path, Site.path,
        rename_missing twins.tidy.enters ends named otherNamed fits otherFits missing,
        rename_missing twins.otherTidy.enters ends named otherNamed fits otherFits alsoMissing]
      exact twins.unchanged _
  | file id otherId only alsoOnly => exact found only.here alsoOnly.here
  | directory entries others here there => exact found here there

theorem rename_file {id : FileId}
    (isFile : first.node? (site.location ++ [name]) = some (.file id)) :
    Agree site own first second
      (outcome (FileOperation.change fun files => files.rename (site.path name) (site.path other))
        first)
      (outcome (FileOperation.change fun files => files.rename (site.path name) (site.path other))
        second) := by
  cases twins.samePlace member [] with
  | none missing =>
      rw [missing] at isFile
      cases isFile
  | directory entries others here =>
      rw [here] at isFile
      cases isFile
  | file id otherId only alsoOnly =>
      cases twins.samePlace otherMember [] with
      | none vacant =>
          exact twins.rename_vacant entry otherEntry member otherMember different vacant
      | directory entries others here there =>
          exact twins.rename entry otherEntry member otherMember different only.here alsoOnly.here
            (by rw [here]; rfl) (by rw [there]; rfl) (by rw [here, there]; rfl)
      | file second otherSecond here there =>
          have elsewhere : site.location ++ [other] ≠ site.location ++ [name] := by
            simpa using Ne.symm different
          have noName : sameFile (.file id) (some (.file second)) = false := by
            refine decide_eq_false fun same => elsewhere ?_
            exact only.only _ (same ▸ here.here)
          have alsoNoName : sameFile (.file otherId) (some (.file otherSecond)) = false := by
            refine decide_eq_false fun same => elsewhere ?_
            exact alsoOnly.only _ (same ▸ there.here)
          exact twins.rename entry otherEntry member otherMember different only.here alsoOnly.here
            (by rw [here.here, noName]) (by rw [there.here, alsoNoName])
            (by rw [here.here, there.here]; rfl)

end

end Twins

end SchemaBuild.FileSystem
