import SchemaBuild.Proofs.FileSystem.Places
import SchemaBuild.Proofs.Steps

/-!
# Operations on entries of a directory

What the operations come to that take the path of an entry, once it is known which directory the
path leads to.
-/

namespace SchemaBuild

structure IsEntryName (name : Name) : Prop extends IsProper name where
  short : name.length ≤ longestName

theorem IsEntryName.step {name : Name} (named : IsEntryName name) : IsStep name :=
  named.toIsProper.isStep named.short

namespace FileSystem

variable {files : FileSystem} {directory path : Bytes} {left : Nat} {location : Location}
  {name : Name}

/-- A path leads to a directory and names an entry there, whether there is one or not. This many
links may be followed from the directory. -/
structure Reaches (files : FileSystem) (path : Bytes) (left : Nat) (location : Location)
    (name : Name) : Prop where
  named : IsEntryName name
  last : (pathNames path).getLast? = some name
  noSlash : endsInSlash path = false
  fits : Fits path
  leads : Leads files linkLimit (pathNames path).dropLast (walkStart path files.working) left
    location
  has : files.HasDirectory location

theorem Enters.reaches (enters : files.Enters directory left location) (notEmpty : directory ≠ [])
    (named : IsEntryName name) (fits : Fits (directory ++ slashByte :: name)) :
    files.Reaches (directory ++ slashByte :: name) left location name := by
  have names : pathNames (directory ++ slashByte :: name) = pathNames directory ++ [name] := by
    rw [pathNames_append, named.toIsProper.pathNames]
  refine ⟨named, ?_, named.toIsProper.endsInSlash directory, fits, ?_, enters.has⟩
  · rw [names, List.getLast?_concat]
  · rw [names, List.dropLast_concat, walkStart_append notEmpty]
    exact enters.leads

theorem Enters.below (enters : files.Enters directory left location) (notEmpty : directory ≠ [])
    (named : IsEntryName name) (has : files.HasDirectory (location ++ [name])) :
    files.Enters (directory ++ slashByte :: name) left (location ++ [name]) := by
  refine ⟨?_, has⟩
  rw [pathNames_append, named.toIsProper.pathNames, walkStart_append notEmpty]
  exact enters.leads.append (.down named.step has .here)

theorem slot_of_leads (proper : IsProper name) (last : (pathNames path).getLast? = some name)
    (noSlash : endsInSlash path = false) (fits : Fits path)
    (leads : Leads files linkLimit (pathNames path).dropLast (walkStart path files.working) left
      location) (has : files.HasDirectory location) :
    files.slot path = .ok ⟨location, .name name, false⟩ := by
  have walks : files.walk .target linkLimit ((pathNames path).dropLast ++ [currentName])
      (walkStart path files.working) = files.walk .target left [] location := by
    rw [leads.walk (by simp) (by decide), walk_stay (.inl rfl)]
  obtain ⟨entries, -, direct⟩ := files.walk_nil .target left has
  rw [FileSystem.slot, if_neg (by simpa using fits.noZero), if_neg (by simpa using fits.notEmpty),
    if_neg (Nat.not_le.2 fits.short)]
  simp only [last, proper.notCurrent, proper.notParent, if_false, noSlash, walks, direct]

/-! ## Paths of entries -/

namespace Reaches

theorem mono {big : FileSystem} (includes : big.Includes files)
    (working : big.working = files.working) (reaches : files.Reaches path left location name) :
    big.Reaches path left location name :=
  ⟨reaches.named, reaches.last, reaches.noSlash, reaches.fits,
    working ▸ reaches.leads.mono includes,
    hasDirectory_congr (includes _ (.inl reaches.has)) reaches.has⟩

theorem unique {otherLeft : Nat} {other : Location} {otherName : Name}
    (reaches : files.Reaches path left location name)
    (otherReaches : files.Reaches path otherLeft other otherName) :
    other = location ∧ otherLeft = left ∧ otherName = name := by
  obtain ⟨rfl, rfl⟩ := reaches.leads.unique otherReaches.leads
  exact ⟨rfl, rfl, Option.some.inj (otherReaches.last.symm.trans reaches.last)⟩

variable (reaches : files.Reaches path left location name)
include reaches

theorem names : (pathNames path).dropLast ++ [name] = pathNames path := by
  obtain ⟨above, names⟩ := List.getLast?_eq_some_iff.1 reaches.last
  rw [names, List.dropLast_concat]

theorem seek_eq_walk (sought : Sought) :
    files.seek sought path = files.walk sought left [name] location := by
  have walks : files.walk sought linkLimit ((pathNames path).dropLast ++ [name])
      (walkStart path files.working) = files.walk sought left [name] location :=
    reaches.leads.walk (by simp) (by simpa using reaches.named.notEmpty)
  rw [reaches.names] at walks
  rw [seek_of_fits reaches.fits, walkNames, reaches.noSlash, if_neg (by decide),
    List.append_nil, walks]

theorem seek (sought : Sought) :
    files.seek sought path =
      match files.node? (location ++ [name]) with
      | none => .ok (.vacant location name)
      | some (.link target) =>
          if sought = .entry then .ok (.node (location ++ [name]) (.link target))
          else files.follow sought left location target []
      | some node => .ok (.node (location ++ [name]) node) := by
  rw [reaches.seek_eq_walk, walk_step reaches.named.step (by simp)]
  obtain ⟨entries, found⟩ := reaches.has
  cases atName : files.node? (location ++ [name]) with
  | none => simp [found]
  | some node =>
      cases node with
      | directory inner =>
          obtain ⟨other, same, walks⟩ := files.walk_nil sought left ⟨inner, atName⟩
          rw [atName] at same
          obtain rfl := Node.directory.inj (Option.some.inj same)
          exact walks
      | file | device => simp
      | link target => simp

theorem locate (node : Node) (found : files.node? (location ++ [name]) = some node) :
    files.locate false path = .ok (.node (location ++ [name]) node) := by
  rw [FileSystem.locate, if_neg (by decide), reaches.seek, found]
  cases node <;> rfl

theorem seek_vacant (sought : Sought) (found : files.node? (location ++ [name]) = none) :
    files.seek sought path = .ok (.vacant location name) := by
  rw [reaches.seek, found]

theorem seek_node (sought : Sought) {node : Node} (noLink : ∀ target, node ≠ .link target)
    (found : files.node? (location ++ [name]) = some node) :
    files.seek sought path = .ok (.node (location ++ [name]) node) := by
  rw [reaches.seek, found]
  cases node with
  | link target => exact absurd rfl (noLink target)
  | file | device | directory => rfl

theorem slot : files.slot path = .ok ⟨location, .name name, false⟩ :=
  slot_of_leads reaches.named.toIsProper reaches.last reaches.noSlash reaches.fits reaches.leads
    reaches.has

theorem makeDirectory :
    files.makeDirectory path =
      if (files.node? (location ++ [name])).isSome then .error .exists
      else if files.takesEntries location then
        .ok (files.put location name (.directory (.empty
          (usualDirectoryPermissions ||| files.inheritedPermissions location))))
      else .error .notFound := by
  rw [FileSystem.makeDirectory, makeDirectoryWith, reaches.slot]
  simp only [bind, Except.bind, if_neg (Nat.not_lt.2 reaches.named.short), entry?]
  cases (files.node? (location ++ [name])).isSome <;> cases files.takesEntries location <;> rfl

theorem unlink :
    files.unlink path =
      match files.node? (location ++ [name]) with
      | none => .error .notFound
      | some (.directory _) => .error .isDirectory
      | some _ => .ok (files.erase location name) := by
  rw [FileSystem.unlink, reaches.slot]
  simp only [bind, Except.bind, if_neg (Nat.not_lt.2 reaches.named.short), entry?]
  cases files.node? (location ++ [name]) with
  | none => rfl
  | some node => cases node <;> rfl

theorem removeDirectory :
    files.removeDirectory path =
      match files.node? (location ++ [name]) with
      | none => .error .notFound
      | some (.directory entries) =>
          if entries.isEmpty then .ok (files.erase location name) else .error .notEmpty
      | some _ => .error .notDirectory := by
  have short := Nat.not_lt.2 reaches.named.short
  rw [FileSystem.removeDirectory, reaches.slot]
  cases found : files.node? (location ++ [name]) with
  | none => simp [bind, Except.bind, short, entry?, found]
  | some node => cases node <;> simp [bind, Except.bind, short, entry?, found]

end Reaches

theorem reaches_of_slot (named : IsEntryName name) (last : (pathNames path).getLast? = some name)
    (noSlash : endsInSlash path = false) {slot : Slot} (found : files.slot path = .ok slot) :
    ∃ left, files.Reaches path left slot.directory name := by
  have fits := fits_of_slot found
  rw [FileSystem.slot, if_neg (by simpa using fits.noZero), if_neg (by simpa using fits.notEmpty),
    if_neg (Nat.not_le.2 fits.short)] at found
  simp only at found
  split at found
  · cases found
  next target entries walks =>
    obtain ⟨left, location, leads, walks⟩ := leads_of_walk (by simp) walks
    obtain rfl := Except.ok.inj found
    rw [walk_stay (.inl rfl), walk_eq, walkWith] at walks
    split at walks
    next node here =>
      simp only [Except.ok.injEq, Place.node.injEq] at walks
      obtain ⟨rfl, rfl⟩ := walks
      exact ⟨left, named, last, noSlash, fits, leads, entries, here⟩
    next => cases walks
  · cases found

/-! ## Looking for an entry -/

section

variable (enters : files.Enters directory left location) (ends : EndsInName directory)
  (named : IsEntryName name) (fits : Fits (directory ++ slashByte :: name))
include enters ends named fits

theorem locate_entry (node : Node) (found : files.node? (location ++ [name]) = some node) :
    files.locate false (directory ++ slashByte :: name) =
      .ok (.node (location ++ [name]) node) :=
  (enters.reaches ends.ne_nil named fits).locate node found

theorem seek_vacant (sought : Sought) (found : files.node? (location ++ [name]) = none) :
    files.seek sought (directory ++ slashByte :: name) = .ok (.vacant location name) :=
  (enters.reaches ends.ne_nil named fits).seek_vacant sought found

theorem seek_node (sought : Sought) {node : Node} (noLink : ∀ target, node ≠ .link target)
    (found : files.node? (location ++ [name]) = some node) :
    files.seek sought (directory ++ slashByte :: name) =
      .ok (.node (location ++ [name]) node) :=
  (enters.reaches ends.ne_nil named fits).seek_node sought noLink found

/-! ## Opening entries -/

theorem openToWrite_vacant (permissions : Nat)
    (found : files.node? (location ++ [name]) = none) :
    files.openToWrite (directory ++ slashByte :: name) permissions =
      if files.takesEntries location then
        .ok (.file files.stored.size, files.putFile location name
          { permissions := permissions, time := presentTime })
      else .error .notFound := by
  rw [openToWrite, seek_vacant enters ends named fits .writable found]
  simp only [bind, Except.bind]
  cases files.takesEntries location <;> rfl

theorem openToWrite_file (permissions : Nat) {id : FileId}
    (found : files.node? (location ++ [name]) = some (.file id)) :
    files.openToWrite (directory ++ slashByte :: name) permissions = .ok (.file id, files) := by
  rw [openToWrite, seek_node enters ends named fits .writable (by simp) found]
  rfl

theorem openToWrite_directory (permissions : Nat) {entries : Directory}
    (found : files.node? (location ++ [name]) = some (.directory entries)) :
    files.openToWrite (directory ++ slashByte :: name) permissions = .error .isDirectory := by
  rw [openToWrite, seek_node enters ends named fits .writable (by simp) found]
  rfl

end

/-! ## Giving an entry another name -/

theorem not_isPrefixOf_beside {other : Name} (different : name ≠ other) (location : Location) :
    (location ++ [name]).isPrefixOf (location ++ [other]) = false := by
  rw [← Bool.not_eq_true, List.isPrefixOf_iff_prefix, List.prefix_append_right_inj,
    List.cons_prefix_cons]
  exact fun both => different both.1

theorem file_of_sameFile {node : Node} {other : Option Node} (same : sameFile node other = true) :
    ∃ id, node = .file id ∧ other = some (.file id) := by
  cases node with
  | file id =>
      cases other with
      | none => cases same
      | some node =>
          cases node with
          | file second => exact ⟨id, rfl, by rw [of_decide_eq_true same]⟩
          | link | device | directory => cases same
  | link | device | directory => cases same

section

variable {other : Name} (enters : files.Enters directory left location)
  (ends : EndsInName directory) (named : IsEntryName name) (otherNamed : IsEntryName other)
  (fits : Fits (directory ++ slashByte :: name))
  (otherFits : Fits (directory ++ slashByte :: other)) (different : name ≠ other)
include enters ends named otherNamed fits otherFits different

theorem rename_found {node : Node} (found : files.node? (location ++ [name]) = some node) :
    files.rename (directory ++ slashByte :: name) (directory ++ slashByte :: other) =
      if !files.takesEntries location then .error .notFound
      else if sameFile node (files.node? (location ++ [other])) then .ok files
      else (replaceable node.isDirectory (files.node? (location ++ [other]))).map fun _ =>
        (files.erase location name).put location other node := by
  have notLong := not_or.2 ⟨Nat.not_lt.2 named.short, Nat.not_lt.2 otherNamed.short⟩
  rw [rename, (enters.reaches ends.ne_nil named fits).slot]
  simp only [bind, Except.bind, (enters.reaches ends.ne_nil otherNamed otherFits).slot, entry?,
    found]
  rw [if_neg (by simpa using notLong)]
  simp only [Bool.not_true, Bool.false_and, Bool.false_eq_true, if_false, Bool.or_self,
    Bool.and_false, List.append_cancel_left_eq, List.cons.injEq, and_true, different,
    not_isPrefixOf_beside different, not_isPrefixOf_beside (Ne.symm different)]
  cases replaceable node.isDirectory (files.node? (location ++ [other])) <;> rfl

omit different in
theorem rename_missing (missing : files.node? (location ++ [name]) = none) :
    files.rename (directory ++ slashByte :: name) (directory ++ slashByte :: other) =
      .error .notFound := by
  have notLong := not_or.2 ⟨Nat.not_lt.2 named.short, Nat.not_lt.2 otherNamed.short⟩
  rw [rename, (enters.reaches ends.ne_nil named fits).slot]
  simp only [bind, Except.bind, (enters.reaches ends.ne_nil otherNamed otherFits).slot, entry?,
    missing]
  rw [if_neg (by simpa using notLong)]

theorem rename_vacant {node : Node} (found : files.node? (location ++ [name]) = some node)
    (vacant : files.node? (location ++ [other]) = none)
    (takes : files.takesEntries location = true) :
    files.rename (directory ++ slashByte :: name) (directory ++ slashByte :: other) =
      .ok ((files.erase location name).put location other node) := by
  rw [rename_found enters ends named otherNamed fits otherFits different found, vacant, takes]
  cases node <;> rfl

/-- What has been done when an entry could be given another name: it was moved, unless there were
two names of one file. -/
theorem rename_ok {after : FileSystem}
    (renamed : files.rename (directory ++ slashByte :: name) (directory ++ slashByte :: other) =
      .ok after) :
    ∃ node, files.node? (location ++ [name]) = some node ∧
      (after = (files.erase location name).put location other node ∨
        ∃ id, node = .file id ∧ files.node? (location ++ [other]) = some (.file id) ∧
          after = files) := by
  cases found : files.node? (location ++ [name]) with
  | none =>
      rw [rename_missing enters ends named otherNamed fits otherFits found] at renamed
      cases renamed
  | some node =>
      refine ⟨node, rfl, ?_⟩
      rw [rename_found enters ends named otherNamed fits otherFits different found] at renamed
      split at renamed
      · cases renamed
      split at renamed
      next same =>
        obtain ⟨id, rfl, listed⟩ := file_of_sameFile same
        exact .inr ⟨id, rfl, listed, (Except.ok.inj renamed).symm⟩
      next =>
        cases replaces : replaceable node.isDirectory (files.node? (location ++ [other])) with
        | error error =>
            rw [replaces] at renamed
            cases renamed
        | ok =>
            rw [replaces] at renamed
            exact .inl (Except.ok.inj renamed).symm

end

/-- Where an entry could be given another name, the directory could be entered. -/
theorem enters_of_rename {source target : Bytes} {after : FileSystem} (ends : EndsInName directory)
    (proper : IsProper name) (path : source = directory ++ slashByte :: name)
    (renamed : files.rename source target = .ok after) :
    ∃ left location, files.Enters directory left location := by
  subst path
  cases found : files.slot (directory ++ slashByte :: name) with
  | error error => simp [rename, found, bind, Except.bind] at renamed
  | ok slot =>
      obtain ⟨left, enters, -⟩ := enters_of_slot ends proper found
      exact ⟨left, _, enters⟩

end FileSystem

end SchemaBuild
