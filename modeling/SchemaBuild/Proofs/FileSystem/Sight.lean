import SchemaBuild.Proofs.FileSystem.Tree

/-!
# What is seen at a location

The sight of a location is what is known of it without going down from there: which file is there
and what is stored of it, where a link points to, or the permissions of a directory. Two file
systems with the same sight everywhere differ in nothing that a program could tell.
-/

namespace SchemaBuild

/-- What is seen of an entry without going down from it. -/
inductive Sight where
  | file (id : FileId) (stored : StoredFile)
  | link (target : Bytes)
  | device (device : Device)
  | directory (permissions : Nat)

namespace FileSystem

variable {files : FileSystem} {directory location : Location} {name : Name} {node : Node}

def sightOf (files : FileSystem) : Node → Sight
  | .file id => .file id (files.storedAt id)
  | .link target => .link target
  | .device device => .device device
  | .directory entries => .directory entries.permissions

def sight? (files : FileSystem) (location : Location) : Option Sight :=
  (files.node? location).map files.sightOf

/-- All files that are listed were given out, and all directories are in order. -/
def Sound (files : FileSystem) : Prop :=
  files.root.Sound files.stored.size

instance (files : FileSystem) : Decidable files.Sound :=
  inferInstanceAs (Decidable (files.root.Sound files.stored.size))

def HasDirectory (files : FileSystem) (location : Location) : Prop :=
  ∃ entries, files.node? location = some (.directory entries)

/-! ## Looking -/

@[simp] theorem sightOf_bare (files : FileSystem) (node : Node) :
    files.sightOf node.bare = files.sightOf node := by
  cases node <;> rfl

theorem sight?_eq_map_bare (files : FileSystem) (location : Location) :
    files.sight? location = ((files.node? location).map Node.bare).map files.sightOf := by
  rw [sight?, Option.map_map]
  congr
  funext node
  exact (files.sightOf_bare node).symm

theorem sight?_of_node? (found : files.node? location = some node) :
    files.sight? location = some (files.sightOf node) := by
  rw [sight?, found, Option.map_some]

theorem sight?_eq_none : files.sight? location = none ↔ files.node? location = none := by
  rw [sight?, Option.map_eq_none_iff]

theorem sight?_eq_directory {permissions : Nat} :
    files.sight? location = some (.directory permissions) ↔
      ∃ entries, files.node? location = some (.directory entries) ∧
        entries.permissions = permissions := by
  rw [sight?, Option.map_eq_some_iff]
  constructor
  · rintro ⟨node, found, equal⟩
    cases node with
    | directory entries => exact ⟨entries, found, by simpa [sightOf] using equal⟩
    | file | link | device => simp [sightOf] at equal
  · rintro ⟨entries, found, rfl⟩
    exact ⟨_, found, rfl⟩

theorem sight?_eq_link {target : Bytes} :
    files.sight? location = some (.link target) ↔
      files.node? location = some (.link target) := by
  rw [sight?, Option.map_eq_some_iff]
  constructor
  · rintro ⟨node, found, equal⟩
    cases node with
    | link other => rw [found, ← Sight.link.inj equal]
    | file | directory | device => simp [sightOf] at equal
  · exact fun found => ⟨_, found, rfl⟩

theorem sight?_eq_file {id : FileId} {stored : StoredFile} :
    files.sight? location = some (.file id stored) ↔
      files.node? location = some (.file id) ∧ files.storedAt id = stored := by
  rw [sight?, Option.map_eq_some_iff]
  constructor
  · rintro ⟨node, found, equal⟩
    cases node with
    | file other =>
        simp only [sightOf, Sight.file.injEq] at equal
        obtain ⟨rfl, rfl⟩ := equal
        exact ⟨found, rfl⟩
    | link | directory | device => simp [sightOf] at equal
  · rintro ⟨found, rfl⟩
    exact ⟨_, found, rfl⟩

theorem hasDirectory_iff :
    files.HasDirectory location ↔
      ∃ permissions, files.sight? location = some (.directory permissions) := by
  constructor
  · rintro ⟨entries, found⟩
    exact ⟨_, sight?_of_node? found⟩
  · rintro ⟨permissions, seen⟩
    obtain ⟨entries, found, -⟩ := sight?_eq_directory.1 seen
    exact ⟨entries, found⟩

theorem hasDirectory_nil (files : FileSystem) : files.HasDirectory [] :=
  ⟨files.root, rfl⟩

theorem node?_append (files : FileSystem) (location rest : Location) :
    files.node? (location ++ rest) = (files.node? location).bind (Node.find? rest) :=
  Directory.find?_append location rest files.root

theorem hasDirectory_of_node?_append {rest : Location} (notHere : rest ≠ [])
    (found : files.node? (location ++ rest) = some node) : files.HasDirectory location := by
  rw [node?_append] at found
  obtain ⟨above, atLocation, found⟩ := Option.bind_eq_some_iff.1 found
  cases rest with
  | nil => exact absurd rfl notHere
  | cons head tail =>
      cases above with
      | directory entries => exact ⟨entries, atLocation⟩
      | file | link | device => simp [Node.find?] at found

theorem HasDirectory.above {rest : Location} (has : files.HasDirectory (location ++ rest)) :
    files.HasDirectory location := by
  cases rest with
  | nil => rwa [List.append_nil] at has
  | cons =>
      obtain ⟨_, found⟩ := has
      exact hasDirectory_of_node?_append (by simp) found

theorem HasDirectory.dropLast (has : files.HasDirectory location) :
    files.HasDirectory location.dropLast := by
  by_cases empty : location = []
  · subst empty
    exact has
  · rw [← List.dropLast_concat_getLast empty] at has
    exact has.above

theorem Sound.node? (sound : files.Sound) (found : files.node? location = some node) :
    node.Sound files.stored.size :=
  Directory.Sound.find? sound found

theorem Sound.file_lt {id : FileId} (sound : files.Sound)
    (found : files.node? location = some (.file id)) : id < files.stored.size := by
  have below := sound.node? found
  rwa [Node.Sound] at below

theorem Sound.proper (sound : files.Sound) (found : files.node? location = some node) :
    ∀ name ∈ location, IsProper name :=
  Directory.Sound.proper sound found

/-! ## Locations below an entry -/

/-- A location below a directory, but not below one of its entries, is that of the directory or
below another entry. -/
theorem apart_cases (apart : ¬directory ++ [name] <+: location) (below : directory <+: location) :
    location = directory ∨
      ∃ other rest, location = directory ++ other :: rest ∧ other ≠ name := by
  obtain ⟨rest, rfl⟩ := below
  cases rest with
  | nil => exact .inl (List.append_nil directory)
  | cons other rest =>
      refine .inr ⟨other, rest, rfl, ?_⟩
      rintro rfl
      exact apart ⟨rest, by simp⟩

theorem not_below_entry (directory : Location) (name : Name) :
    ¬directory ++ [name] <+: directory := by
  intro within
  have longer := within.length_le
  rw [List.length_append, List.length_singleton] at longer
  omega

theorem below_ne_self (directory : Location) (name : Name) (rest : Location) :
    directory ++ name :: rest ≠ directory :=
  fun same => by simpa using congrArg List.length same

theorem below_entry (directory : Location) (name : Name) (rest : Location) :
    directory ++ [name] <+: directory ++ name :: rest :=
  ⟨rest, by simp⟩

/-! ## Changes of a directory -/

section

variable {update : Directory → Directory}

def changeDirectory (files : FileSystem) (update : Directory → Directory) (location : Location) :
    FileSystem :=
  { files with root := files.root.change update location }

theorem put_eq (files : FileSystem) (directory : Location) (name : Name) (node : Node) :
    files.put directory name node =
      files.changeDirectory (fun entries => entries.put name node) directory :=
  rfl

theorem erase_eq (files : FileSystem) (directory : Location) (name : Name) :
    files.erase directory name =
      files.changeDirectory (fun entries => entries.erase name) directory :=
  rfl

@[simp] theorem sightOf_changeDirectory :
    (files.changeDirectory update directory).sightOf = files.sightOf := by
  funext node
  cases node <;> rfl

theorem node?_changeDirectory_below {entries : Directory}
    (found : files.node? directory = some (.directory entries)) (rest : Location) :
    (files.changeDirectory update directory).node? (directory ++ rest) =
      (update entries).find? rest :=
  Directory.find?_change_below found rest

theorem sight?_changeDirectory_apart
    (keeps : ∀ entries : Directory, (update entries).permissions = entries.permissions)
    (apart : ¬directory <+: location) :
    (files.changeDirectory update directory).sight? location = files.sight? location := by
  rw [sight?_eq_map_bare, sight?_eq_map_bare, sightOf_changeDirectory]
  congr 1
  exact Directory.find?_change_apart keeps apart files.root

theorem sight?_changeDirectory_self
    (keeps : ∀ entries : Directory, (update entries).permissions = entries.permissions)
    (has : files.HasDirectory directory) :
    (files.changeDirectory update directory).sight? directory = files.sight? directory := by
  obtain ⟨entries, found⟩ := has
  have changed : (files.changeDirectory update directory).node? (directory ++ []) =
      (update entries).find? [] := node?_changeDirectory_below found []
  rw [List.append_nil] at changed
  rw [sight?, sight?, changed, found, sightOf_changeDirectory]
  simp [sightOf, keeps]

theorem Sound.changeDirectory (sound : files.Sound)
    (keeps : ∀ entries : Directory,
      entries.Sound files.stored.size → (update entries).Sound files.stored.size) :
    (files.changeDirectory update directory).Sound :=
  Directory.Sound.change sound keeps

end

/-! ## Putting an entry into a directory -/

section

variable (has : files.HasDirectory directory)
include has

theorem node?_put_below (rest : Location) :
    (files.put directory name node).node? (directory ++ name :: rest) = node.find? rest := by
  obtain ⟨entries, found⟩ := has
  rw [put_eq, node?_changeDirectory_below found, Directory.find?_cons, Directory.get?_put,
    if_pos rfl, Option.bind_some]

theorem node?_put_beside {other : Name} (different : other ≠ name) (rest : Location) :
    (files.put directory name node).node? (directory ++ other :: rest) =
      files.node? (directory ++ other :: rest) := by
  obtain ⟨entries, found⟩ := has
  rw [put_eq, node?_changeDirectory_below found, node?_append, found, Option.bind_some,
    Node.find?, Directory.find?_cons, Directory.find?_cons, Directory.get?_put,
    if_neg (Ne.symm different)]

theorem sight?_put_apart (apart : ¬directory ++ [name] <+: location) :
    (files.put directory name node).sight? location = files.sight? location := by
  by_cases below : directory <+: location
  · rcases apart_cases apart below with rfl | ⟨other, rest, rfl, different⟩
    · exact sight?_changeDirectory_self (fun _ => Directory.permissions_put ..) has
    · rw [sight?, sight?, node?_put_beside has different]
      exact congrArg (Option.map · _) sightOf_changeDirectory
  · exact sight?_changeDirectory_apart (fun _ => Directory.permissions_put ..) below

theorem node?_erase_beside {other : Name} (different : other ≠ name) (rest : Location) :
    (files.erase directory name).node? (directory ++ other :: rest) =
      files.node? (directory ++ other :: rest) := by
  obtain ⟨entries, found⟩ := has
  rw [erase_eq, node?_changeDirectory_below found, node?_append, found, Option.bind_some,
    Node.find?, Directory.find?_cons, Directory.find?_cons,
    Directory.get?_erase_of_ne different]

theorem sight?_erase_apart (apart : ¬directory ++ [name] <+: location) :
    (files.erase directory name).sight? location = files.sight? location := by
  by_cases below : directory <+: location
  · rcases apart_cases apart below with rfl | ⟨other, rest, rfl, different⟩
    · exact sight?_changeDirectory_self (fun _ => Directory.permissions_erase ..) has
    · rw [sight?, sight?, node?_erase_beside has different]
      exact congrArg (Option.map · _) sightOf_changeDirectory
  · exact sight?_changeDirectory_apart (fun _ => Directory.permissions_erase ..) below

theorem Sound.node?_erase_below (sound : files.Sound) (name : Name) (rest : Location) :
    (files.erase directory name).node? (directory ++ name :: rest) = none := by
  obtain ⟨entries, found⟩ := has
  have entriesSound : entries.Sound files.stored.size := by
    have below := sound.node? found
    rwa [Node.Sound] at below
  rw [erase_eq, node?_changeDirectory_below found, Directory.find?_cons,
    entriesSound.get?_erase_self, Option.bind_none]

end

theorem Sound.put (sound : files.Sound) (proper : IsProper name)
    (nodeSound : node.Sound files.stored.size) : (files.put directory name node).Sound :=
  sound.changeDirectory fun _ entriesSound => entriesSound.put proper nodeSound

theorem Sound.erase (sound : files.Sound) (directory : Location) (name : Name) :
    (files.erase directory name).Sound :=
  sound.changeDirectory fun _ entriesSound => entriesSound.erase name

/-! ## Emptying a directory -/

def emptied (files : FileSystem) (location : Location) : FileSystem :=
  files.changeDirectory (fun entries => .empty entries.permissions) location

theorem node?_emptied_below (has : files.HasDirectory directory) {rest : Location}
    (notHere : rest ≠ []) : (files.emptied directory).node? (directory ++ rest) = none := by
  obtain ⟨entries, found⟩ := has
  rw [emptied, node?_changeDirectory_below found]
  cases rest with
  | nil => exact absurd rfl notHere
  | cons head tail => rfl

theorem sight?_emptied_apart (has : files.HasDirectory directory)
    (apart : ∀ rest ≠ [], location ≠ directory ++ rest) :
    (files.emptied directory).sight? location = files.sight? location := by
  by_cases below : directory <+: location
  · obtain ⟨rest, rfl⟩ := below
    by_cases here : rest = []
    · subst here
      rw [List.append_nil]
      exact sight?_changeDirectory_self (fun _ => rfl) has
    · exact absurd rfl (apart rest here)
  · exact sight?_changeDirectory_apart (fun _ => rfl) below

theorem Sound.emptied (sound : files.Sound) (location : Location) :
    (files.emptied location).Sound :=
  sound.changeDirectory fun _ _ => by rw [Directory.Sound]; trivial

/-! ## What is stored -/

@[simp] theorem node?_changeFile (id : FileId) (change : StoredFile → StoredFile) :
    (files.changeFile id change).node? location = files.node? location :=
  rfl

theorem storedAt_changeFile_of_ne {id other : FileId} (different : other ≠ id)
    (change : StoredFile → StoredFile) :
    (files.changeFile id change).storedAt other = files.storedAt other := by
  simp [changeFile, storedAt, Array.getElem?_modify, Ne.symm different]

theorem storedAt_changeFile_self {id : FileId} (given : id < files.stored.size)
    (change : StoredFile → StoredFile) :
    (files.changeFile id change).storedAt id = change (files.storedAt id) := by
  simp [changeFile, storedAt, Array.getD, given, Array.getElem_modify]

theorem Sound.changeFile (sound : files.Sound) (id : FileId)
    (change : StoredFile → StoredFile) : (files.changeFile id change).Sound := by
  rw [Sound] at sound ⊢
  simpa [FileSystem.changeFile] using sound

theorem sight?_changeFile_of_ne {id : FileId} (change : StoredFile → StoredFile)
    (notListed : files.node? location ≠ some (.file id)) :
    (files.changeFile id change).sight? location = files.sight? location := by
  rw [sight?, sight?, node?_changeFile]
  cases found : files.node? location with
  | none => rfl
  | some node =>
      cases node with
      | file other =>
          have different : other ≠ id := by
            rintro rfl
            exact notListed found
          simp [sightOf, storedAt_changeFile_of_ne different]
      | link | device | directory => rfl

theorem storedAt_putFile_of_lt {id : FileId} (given : id < files.stored.size) (file : StoredFile) :
    (files.putFile directory name file).storedAt id = files.storedAt id := by
  simp [putFile, put, storedAt, Array.getElem?_push, Nat.ne_of_lt given]

theorem storedAt_putFile_self (file : StoredFile) :
    (files.putFile directory name file).storedAt files.stored.size = file := by
  simp [putFile, put, storedAt]

@[simp] theorem node?_putFile (file : StoredFile) :
    (files.putFile directory name file).node? location =
      (files.put directory name (.file files.stored.size)).node? location :=
  rfl

theorem Sound.putFile (sound : files.Sound) (proper : IsProper name) (file : StoredFile) :
    (files.putFile directory name file).Sound := by
  have more : files.root.Sound (files.stored.size + 1) := Directory.Sound.mono (by omega) sound
  have changed : (files.root.change
      (fun entries => entries.put name (.file files.stored.size)) directory).Sound
        (files.stored.size + 1) :=
    more.change fun _ entriesSound => entriesSound.put proper (by simp [Node.Sound])
  rw [Sound]
  simpa [FileSystem.putFile, FileSystem.put] using changed

theorem Sound.sight?_putFile_apart (sound : files.Sound) (has : files.HasDirectory directory)
    (file : StoredFile) (apart : ¬directory ++ [name] <+: location) :
    (files.putFile directory name file).sight? location = files.sight? location := by
  have put : (files.put directory name (.file files.stored.size)).sight? location =
      files.sight? location := sight?_put_apart has apart
  rw [← put, sight?, sight?, node?_putFile]
  cases found : (files.put directory name (.file files.stored.size)).node? location with
  | none => rfl
  | some node =>
      cases node with
      | file id =>
          have seen := sight?_of_node? found
          rw [sight?_put_apart has apart] at seen
          obtain ⟨listed, -⟩ := sight?_eq_file.1 seen
          exact congrArg (fun stored => some (Sight.file id stored))
            (storedAt_putFile_of_lt (sound.file_lt listed) file)
      | link | device | directory => rfl

end FileSystem

end SchemaBuild
